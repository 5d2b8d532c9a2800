import PhoneticSearch.Proofs.Sequence.Engine
import PhoneticSearch.Proofs.Sequence.Room

/-!
# Compiled sequence patterns

A pattern that is read is compiled as long as there is room for it, and a compiled pattern matches
the language that it spells: whole transcriptions are matched if their spelling belongs to the
language, and the hits of a search are the matches of a scan through the spelling, with the elements
that its letters stand for.  The engine of regular expressions finds the same with the translation
of the pattern (`compiled_language`).
-/

namespace PhoneticSearch.Sequence

/-- Whether a hit is what stands from the first to the last of some symbols. -/
structure Hits (kind : Kind) (t : Transcription) (s : Span) (hit : Hit) : Prop where
  span : ∃ first last, (symbols kind t)[s.start]? = some first ∧
    (symbols kind t)[s.stop - 1]? = some last ∧ hit.span = ⟨first.span.start, last.span.stop⟩
  value : hit.value = .transcription (t.subsection hit.span)

section Searching

variable {kind : Kind} {items : List Item} {t : Transcription}

/-- The elements of some symbols stand from the first to the last of these. -/
theorem elementSpan_eq {s : Span} (hlt : s.start < s.stop)
    (hstop : s.stop ≤ (symbols kind t).length) :
    ∃ first last, (symbols kind t)[s.start]? = some first ∧
      (symbols kind t)[s.stop - 1]? = some last ∧
      elementSpan (symbols kind t) s = ⟨first.span.start, last.span.stop⟩ := by
  have hfirst : (symbols kind t)[s.start]? = some (symbols kind t)[s.start] :=
    List.getElem?_eq_getElem _
  have hlast : (symbols kind t)[s.stop - 1]? = some (symbols kind t)[s.stop - 1] :=
    List.getElem?_eq_getElem _
  refine ⟨_, _, hfirst, hlast, ?_⟩
  rw [elementSpan, hfirst, hlast]

/-- The hits of a pattern are what stands where the matches of a scan that are not empty do. -/
theorem find_eq_scan (kind : Kind) (items : List Item) (t : Transcription) :
    ∃ spans, Scans items (spelling kind t) 0 spans ∧
      List.Forall₂ (Hits kind t) (spans.filter (!·.isEmpty)) (find kind items t) := by
  obtain ⟨spans, hscans, hfound⟩ := exists_scan kind items t
  refine ⟨spans, hscans, ?_⟩
  rw [← hfound]
  show List.Forall₂ (Hits kind t) (foundSpans kind items t)
    ((foundSpans kind items t).map fun s => ⟨elementSpan (symbols kind t) s, _⟩)
  rw [List.forall₂_map_right_iff, List.forall₂_same]
  intro s hs
  obtain ⟨hlt, hstop⟩ := foundSpans_within s hs
  exact ⟨elementSpan_eq hlt hstop, rfl⟩

end Searching

/-! ### Compiled patterns -/

section Compiled

variable {kind : Kind} {expression : Text} {items : List Item}

/-- There is room for patterns that are not very long. -/
theorem compile_short (h : read kind expression = .ok items) (hshort : expression.length ≤ 131069) :
    compile kind expression = .ok items := by
  have hroom := (read_iff.mp h).2.room_le
  rw [compile_eq h, if_pos]
  calc 208 + room items ≤ 208 + 80 * 131069 := by omega
    _ ≤ Regex.Footprint.bound := by decide

/-- The engine of regular expressions matches with the translation of a pattern what the pattern
matches. -/
theorem engine_eq (h : read kind expression = .ok items) {r : Regex}
    (hr : Regex.compile true (translation kind expression) = .ok r) (t : Transcription) :
    r.isWhole (spelling kind t) = isWhole kind items t ∧
      (r.search.findAll (spelling kind t)).filter (!·.isEmpty) = foundSpans kind items t := by
  obtain ⟨-, hwritten⟩ := read_iff.mp h
  have hsymbols := hwritten.symbols_mem
  rw [compile_translation hwritten] at hr
  split at hr
  · obtain rfl := Except.ok.inj hr
    exact ⟨search_whole_eq_isWhole hsymbols kind t, findAll_eq_foundSpans hsymbols kind t⟩
  · cases hr

/-- **Sequence patterns match the language that they spell.**  A pattern is what is written by its
expression.  It is compiled if there is room for it, which there always is for expressions of up to
131069 characters.  It matches a whole transcription if and only if the spelling of that belongs to
the language of the items, and finds the matches of the scan through the spelling (there is only one,
`Scans.unique`) that are not empty.
The engine of regular expressions finds the same with the translation of the expression. -/
theorem compiled_language (h : read kind expression = .ok items) :
    Written kind expression items ∧
      compile kind expression = (if 208 + room items ≤ Regex.Footprint.bound then .ok items
        else .error ⟨none, .refused .tooLarge⟩) ∧
      (expression.length ≤ 131069 → compile kind expression = .ok items) ∧
      (∀ t, isWhole kind items t = true ↔ spelling kind t ∈ language items) ∧
      (∀ t, ∃ spans, Scans items (spelling kind t) 0 spans ∧
        List.Forall₂ (Hits kind t) (spans.filter (!·.isEmpty)) (find kind items t)) ∧
      ∀ r, Regex.compile true (translation kind expression) = .ok r → ∀ t,
        (r.isWhole (spelling kind t) = true ↔ spelling kind t ∈ language items) ∧
        ∃ spans, Scans items (spelling kind t) 0 spans ∧
          (r.search.findAll (spelling kind t)).filter (!·.isEmpty) =
            spans.filter (!·.isEmpty) := by
  refine ⟨(read_iff.mp h).2, compile_eq h, compile_short h, fun _ => isWhole_iff,
    find_eq_scan kind items, fun r hr t => ?_⟩
  obtain ⟨hwhole, hfound⟩ := engine_eq h hr t
  obtain ⟨spans, hscans, hspans⟩ := exists_scan kind items t
  exact ⟨by rw [hwhole, isWhole_iff], spans, hscans, hfound.trans hspans⟩

theorem compiled_language_stressed :
    read .stress ['1', 'u', '*'] = .ok [⟨['1'], none⟩, ⟨['U'], some .many⟩] ∧
      compile .stress ['1', 'u', '*'] = .ok [⟨['1'], none⟩, ⟨['U'], some .many⟩] ∧
      (∀ t, isWhole .stress [⟨['1'], none⟩, ⟨['U'], some .many⟩] t = true ↔
        spelling .stress t ∈ language [⟨['1'], none⟩, ⟨['U'], some .many⟩]) ∧
      ∀ t, ∃ spans, Scans [⟨['1'], none⟩, ⟨['U'], some .many⟩] (spelling .stress t) 0 spans ∧
        List.Forall₂ (Hits .stress t) (spans.filter (!·.isEmpty))
          (find .stress [⟨['1'], none⟩, ⟨['U'], some .many⟩] t) := by
  have hread : read .stress ['1', 'u', '*'] = .ok [⟨['1'], none⟩, ⟨['U'], some .many⟩] := rfl
  obtain ⟨-, -, hcompile, hwhole, hfind, -⟩ := compiled_language hread
  exact ⟨hread, hcompile (by decide), hwhole, hfind⟩

/-! ### Patterns without room -/

theorem written_replicate {c : Char} {letters : List Char} (h : kind.symbols? c = some letters)
    (n : Nat) : Written kind (List.replicate n c) (List.replicate n ⟨letters, none⟩) := by
  induction n with
  | zero => exact .nil
  | succ n ih => exact .once h ih

theorem room_replicate (item : Item) (n : Nat) :
    room (List.replicate n item) = n * item.room := by
  rw [room, List.map_replicate, List.sum_replicate_nat]

/-- There is no room for a row of as many stressed syllables, though it is read. -/
theorem compile_stressed_row :
    (∃ items, read .stress (List.replicate 400000 '1') = .ok items) ∧
      compile .stress (List.replicate 400000 '1') = .error ⟨none, .refused .tooLarge⟩ := by
  have hne : List.replicate 400000 '1' ≠ [] := by
    rw [ne_eq, List.replicate_eq_nil_iff]
    omega
  have hsymbol : Kind.stress.symbols? '1' = some ['1'] := rfl
  have hread := read_iff.mpr ⟨hne, written_replicate hsymbol 400000⟩
  refine ⟨⟨_, hread⟩, ?_⟩
  rw [compile_eq hread, room_replicate, if_neg (by decide)]

end Compiled

end PhoneticSearch.Sequence
