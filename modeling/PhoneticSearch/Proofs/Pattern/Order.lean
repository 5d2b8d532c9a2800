import PhoneticSearch.Proofs.Pattern.Folding
import PhoneticSearch.Proofs.Pattern.Found
import PhoneticSearch.Proofs.Regex.Search
import PhoneticSearch.Proofs.Sequence.Search

/-!
# The order of hits

Whatever dialect a pattern is written in, its hits stand in order: none stops before it starts,
and each stops where the next one starts, or in front of it.  Hits of texts count bytes of the
written value, and hits of transcriptions count its elements; each of them is what the value has
at its span (`PatternFilter.find_foundIn`).  Searches of transcriptions go over places, the
visible elements or the symbols, and take at least one place for each hit, so that their hits
are not empty.  `PatternFilter.find_disciplined` says all this of the filters of patterns, which
accept the values that they find a hit in.
-/

namespace PhoneticSearch

open PhoneticSearch.Span (InOrder Covers)

/-! ### Plain patterns -/

namespace Plain

variable (p : Plain)

theorem hitsFrom_apart (hneedle : p.needle ≠ []) : ∀ (t : Text) (offset skip : Nat),
    (p.hitsFrom offset skip t).Pairwise fun a b => a.span.stop ≤ b.span.start := by
  intro t
  induction t with
  | nil => intro offset skip; cases skip <;> exact .nil
  | cons c t ih =>
    intro offset skip
    cases skip with
    | succ skip => exact ih _ _
    | zero =>
      rw [hitsFrom]
      split
      · refine List.pairwise_cons.mpr ⟨fun hit hhit => ?_, ih _ _⟩
        -- The characters behind the first one of a hit are those that are passed over.
        have hlater := le_start_of_mem_hitsFrom hhit
        obtain ⟨n, hn⟩ := Nat.exists_eq_succ_of_ne_zero
          (Nat.ne_of_gt (List.length_pos_iff.mpr hneedle))
        rw [hn] at hlater ⊢
        show offset + (c.utf8Size + Text.size (t.take n)) ≤ hit.span.start
        rwa [← Nat.add_assoc]
      · exact ih _ _

theorem find_apart (t : Text) :
    (p.find t).Pairwise fun a b => a.span.stop ≤ b.span.start := by
  unfold find
  split
  · exact .nil
  · rename_i hneedle
    exact p.hitsFrom_apart (by simpa using hneedle) t 0 0

end Plain

/-! ### Phonex expressions -/

namespace Phonex

/-- The places of visible elements are in order. -/
theorem visible_inOrder (t : Transcription) :
    InOrder ((visible t).map fun (_, i) => ⟨i, i + 1⟩) where
  nonempty := by
    intro s hs
    obtain ⟨_, -, rfl⟩ := List.mem_map.mp hs
    exact Nat.lt_succ_self _
  apart := List.pairwise_map.mpr ((Sequence.zipIdx_pairwise t).sublist List.filter_sublist)

theorem foundSpans_inOrder (root : Node) (t : Transcription) : InOrder (foundSpans root t) where
  nonempty := fun _ hs => (hitAt_of_mem hs).nonempty
  apart := scan_pairwise _ 0

theorem HitAt.covers {root : Node} {t : Transcription} {s : Span} {hit : Hit}
    (h : HitAt root t s hit) :
    Covers ((visible t).map fun (_, i) => ⟨i, i + 1⟩) s hit.span := by
  obtain ⟨e, hstart⟩ := h.starts
  obtain ⟨e', last, hlast, hstop⟩ := h.stops
  refine ⟨⟨hit.span.start, hit.span.start + 1⟩, ⟨last, last + 1⟩, ?_, ?_,
    congrArg (Span.mk hit.span.start) hstop⟩
  · rw [List.getElem?_map, hstart]
    rfl
  · rw [List.getElem?_map, hlast]
    rfl

/-- The hits of an expression cover spans of elements in order. -/
theorem find_inOrder (root : Node) (t : Transcription) :
    InOrder ((find root t).map (·.span)) := by
  rw [find_eq, List.map_map]
  exact (visible_inOrder t).map_covers (foundSpans_inOrder root t)
    fun _ hs => (hitAt_of_mem hs).covers

end Phonex

/-! ### Compiled patterns -/

theorem Dialect.supportsCase_eq_false_iff {d : Dialect} :
    d.supportsCase = false ↔ d ∈ [.phonex, .stress, .soundClass] := by
  cases d <;> decide

namespace CompiledPattern

/-- The dialect that a pattern was written in. -/
def dialect : CompiledPattern → Dialect
  | plain _ => .plain
  | regex _ => .regex
  | phonex _ => .phonex
  | sequence .stress _ => .stress
  | sequence .soundClass _ => .soundClass

theorem dialect_of_compile {spec : PatternSpec} {p : CompiledPattern}
    (h : compile spec = .ok p) : p.dialect = spec.dialect := by
  have hmap : ∀ {ε α : Type} {x : Except ε α} {f : α → CompiledPattern},
      x.map f = .ok p → ∃ a, f a = p := by
    intro ε α x f hx
    cases x with
    | error e => cases hx
    | ok a => exact ⟨a, Except.ok.inj hx⟩
  unfold compile at h
  dsimp only at h
  split at h
  · cases h
  · split at h
    all_goals
      rename_i hdialect
      obtain ⟨_, rfl⟩ := hmap h
      exact hdialect.symm

/-- The hits of a pattern stand one behind the other. -/
theorem find_apart (p : CompiledPattern) (v : Value) :
    (p.find v).Pairwise fun a b => a.span.stop ≤ b.span.start := by
  cases p with
  | plain p => exact p.find_apart v.render
  | regex r => exact r.find_apart v.render
  | phonex root =>
    cases v with
    | transcription t => exact List.pairwise_map.mp (Phonex.find_inOrder root t).apart
    | _ => exact .nil
  | sequence kind items =>
    cases v with
    | transcription t => exact List.pairwise_map.mp (Sequence.find_inOrder kind items t).apart
    | _ => exact .nil

/-- The hits in transcriptions have elements. -/
theorem find_nonempty {p : CompiledPattern} (hcase : p.dialect.supportsCase = false) (v : Value) :
    ∀ hit ∈ p.find v, hit.span.start < hit.span.stop := by
  intro hit hhit
  cases p with
  | plain p => cases hcase
  | regex r => cases hcase
  | phonex root =>
    cases v with
    | transcription t =>
      exact (Phonex.find_inOrder root t).nonempty _ (List.mem_map_of_mem hhit)
    | _ => cases hhit
  | sequence kind items =>
    cases v with
    | transcription t =>
      exact (Sequence.find_inOrder kind items t).nonempty _ (List.mem_map_of_mem hhit)
    | _ => cases hhit

/-- The hits in written values are texts. -/
theorem find_text {p : CompiledPattern} (hcase : p.dialect.supportsCase = true) (v : Value) :
    ∀ hit ∈ p.find v, ∃ part, hit.value = .text part ∧ part.StandsAt v.render hit.span := by
  intro hit hhit
  cases p with
  | plain p =>
    unfold find Plain.find at hhit
    dsimp only at hhit
    split at hhit
    · cases hhit
    · exact p.hitsFrom_standsAt v.render [] 0 hit hhit
  | regex r =>
    obtain ⟨part, hpart⟩ : ∃ part, hit.value = .text part := by
      obtain ⟨s, -, rfl⟩ := List.mem_map.mp hhit
      exact ⟨_, rfl⟩
    cases r.find_foundIn v hit hhit with
    | text h => exact ⟨_, rfl, h⟩
    | _ => cases hpart
  | phonex root => cases hcase
  | sequence kind items => cases kind <;> cases hcase

theorem start_le_stop (p : CompiledPattern) (v : Value) :
    ∀ hit ∈ p.find v, hit.span.start ≤ hit.span.stop := by
  intro hit hhit
  cases hcase : p.dialect.supportsCase with
  | false => exact Nat.le_of_lt (find_nonempty hcase v hit hhit)
  | true =>
    obtain ⟨part, -, hpart⟩ := find_text hcase v hit hhit
    exact hpart.start_le_stop

/-- Only patterns for written values find or match a phone. -/
theorem supportsCase_of_phone {p : CompiledPattern} {phone : Phone}
    (h : p.find (.phone phone) ≠ [] ∨ p.isWhole (.phone phone) = true) :
    p.dialect.supportsCase = true := by
  cases p with
  | plain p => rfl
  | regex r => rfl
  | phonex root => exact h.elim (fun h => absurd rfl h) (fun h => by cases h)
  | sequence kind items => exact h.elim (fun h => absurd rfl h) (fun h => by cases h)

end CompiledPattern

/-! ### Filters -/

namespace PatternFilter

variable {id : Text} {spec : PatternSpec}

theorem dialect_of_pattern? {p : CompiledPattern} (h : (ofSpec id spec).pattern? = some p) :
    p.dialect = spec.dialect := by
  unfold pattern? ofSpec at h
  split at h
  · rename_i p' hcompiled
    obtain rfl := Option.some.inj h
    dsimp only at hcompiled
    split at hcompiled
    · cases hcompiled
    · exact CompiledPattern.dialect_of_compile (Option.some.inj hcompiled)
  · cases h

/-- A filter accepts the values that it finds a hit in. -/
theorem check_iff_find (f : PatternFilter) (v : Value) : f.check v = true ↔ f.find v ≠ [] := by
  unfold check find
  cases f.pattern? with
  | none => simp
  | some p =>
    dsimp only
    cases f.spec.exact with
    | false => simp
    | true => cases p.isWhole v <;> simp

theorem find_apart (f : PatternFilter) (v : Value) :
    (f.find v).Pairwise fun a b => a.span.stop ≤ b.span.start := by
  unfold find
  split
  · exact .nil
  · split
    · exact CompiledPattern.find_apart _ v
    · split
      · exact List.pairwise_singleton _ _
      · exact .nil

theorem start_le_stop (f : PatternFilter) (v : Value) :
    ∀ hit ∈ f.find v, hit.span.start ≤ hit.span.stop := by
  intro hit h
  obtain ⟨p, -, ⟨-, hhit⟩ | ⟨-, -, rfl⟩⟩ := mem_find h
  · exact p.start_le_stop v hit hhit
  · exact Nat.zero_le _

/-- What a filter finds in a phone is a text. -/
theorem find_phone {phone : Phone} : ∀ hit ∈ (ofSpec id spec).find (.phone phone),
    ∃ part, hit.value = .text part := by
  intro hit h
  obtain ⟨p, hp, ⟨-, hhit⟩ | ⟨-, hwhole, rfl⟩⟩ := mem_find h
  · have hcase := CompiledPattern.supportsCase_of_phone (.inl (List.ne_nil_of_mem hhit))
    obtain ⟨part, hpart, -⟩ := CompiledPattern.find_text hcase _ hit hhit
    exact ⟨part, hpart⟩
  · have hcase : (ofSpec id spec).spec.dialect.supportsCase = true :=
      dialect_of_pattern? hp ▸ CompiledPattern.supportsCase_of_phone (.inr hwhole)
    exact ⟨phone.text, by rw [wholeHit, if_pos hcase]; rfl⟩

/-- **What filters find.**  For every pattern and every value, none of the hits stops before it
starts, and each stops where the next one starts, or in front of it.  A hit with a text is the
slice of the written value between two characters; one with a transcription is the part of the
value, which is a transcription, that the hit covers; there are no others.  Hits of phonex
expressions and of sequence patterns are not empty, unless whole values are asked for.  And
the values that are accepted are those that something is found in. -/
theorem find_disciplined (id : Text) (spec : PatternSpec) (v : Value) :
    let f := ofSpec id spec
    (∀ hit ∈ f.find v, hit.span.start ≤ hit.span.stop) ∧
    (f.find v).Pairwise (fun a b => a.span.stop ≤ b.span.start) ∧
    (∀ hit ∈ f.find v, match hit.value with
      | .text part => Text.IsBoundary v.render hit.span.start ∧
          Text.IsBoundary v.render hit.span.stop ∧
          ((Text.bytes v.render).take hit.span.stop).drop hit.span.start = Text.bytes part
      | .transcription part => ∃ t, v = .transcription t ∧ hit.span.stop ≤ t.length ∧
          part = t.subsection hit.span
      | .phone _ => False) ∧
    (spec.dialect ∈ [.phonex, .stress, .soundClass] → spec.exact = false →
      ∀ hit ∈ f.find v, hit.span.start < hit.span.stop) ∧
    (f.check v = true ↔ f.find v ≠ []) := by
  intro f
  refine ⟨f.start_le_stop v, f.find_apart v, fun hit hhit => ?_, fun hdialect hexact => ?_,
    f.check_iff_find v⟩
  · cases f.find_foundIn v hit hhit with
    | text h => exact ⟨h.isBoundary_start, h.isBoundary_stop, h.bytes_eq⟩
    | elements h => exact ⟨_, rfl, h, rfl⟩
    | phone =>
      obtain ⟨part, hpart⟩ := find_phone _ hhit
      cases hpart
  · intro hit h
    obtain ⟨p, hp, ⟨-, hhit⟩ | ⟨hwhole, -⟩⟩ := mem_find h
    · refine CompiledPattern.find_nonempty ?_ v hit hhit
      rw [dialect_of_pattern? hp]
      exact Dialect.supportsCase_eq_false_iff.mpr hdialect
    · exact absurd (hexact.symm.trans hwhole) Bool.false_ne_true

/-- A search for syllables of a consonant and a vowel finds both of them, in order. -/
theorem find_disciplined_syllables : ∃ t,
    Transcription.read .builtin "ˈka.ta".toList = .ok t ∧
    let spec : PatternSpec := { expression := "CV".toList, dialect := .soundClass }
    ((ofSpec [] spec).find (.transcription t)).map (·.span) = [⟨1, 3⟩, ⟨4, 6⟩] ∧
    (∀ hit ∈ (ofSpec [] spec).find (.transcription t), hit.span.start < hit.span.stop) ∧
    (ofSpec [] spec).check (.transcription t) = true := by
  obtain ⟨t, hread, hspans⟩ : ∃ t, Transcription.read .builtin "ˈka.ta".toList = .ok t ∧
      ((ofSpec [] { expression := "CV".toList, dialect := .soundClass }).find
        (.transcription t)).map (·.span) = [⟨1, 3⟩, ⟨4, 6⟩] :=
    ⟨_, rfl, by decide +kernel⟩
  obtain ⟨-, -, -, hnonempty, hcheck⟩ := find_disciplined []
    { expression := "CV".toList, dialect := .soundClass } (.transcription t)
  refine ⟨t, hread, hspans, hnonempty (by decide) rfl, hcheck.mpr fun hnil => ?_⟩
  rw [hnil] at hspans
  cases hspans

end PatternFilter

end PhoneticSearch
