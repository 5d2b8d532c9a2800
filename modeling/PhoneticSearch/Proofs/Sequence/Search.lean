import PhoneticSearch.Pattern.Sequence.Search
import PhoneticSearch.Proofs.Span
import PhoneticSearch.Proofs.Transcription.Division

/-!
# The order of sequence matches

The symbols of a transcription stand in order, each with an element: syllables do not overlap,
and a gap between words has the word break in it (`symbols_inOrder`).  What a search takes are
spans of symbols in order (`scan_inOrder`), and they do not run past the last symbol, as no
match is longer than what is left of the symbols (`lengths_within`).  So the hits cover spans of
elements in order (`find_inOrder`).
-/

namespace PhoneticSearch.Sequence

open PhoneticSearch.Span (InOrder Covers)

/-! ### Symbols -/

/-- The symbols of syllables in order are in order, behind the syllable in front of them. -/
theorem stressSymbolsAfter_inOrder : ∀ (syllables : List Syllable) (previous : Option Syllable),
    (previous.toList ++ syllables).Pairwise (fun a b => a.span.stop ≤ b.span.start ∧
      (a.word ≠ b.word → a.span.stop < b.span.start)) →
    (∀ s ∈ syllables, s.span.start < s.span.stop) →
    (∀ p ∈ previous, ∀ symbol ∈ stressSymbolsAfter previous syllables,
        p.span.stop ≤ symbol.span.start) ∧
      InOrder ((stressSymbolsAfter previous syllables).map (·.span)) := by
  intro syllables
  induction syllables with
  | nil => intro previous _ _; exact ⟨fun _ _ _ h => (by cases h), .nil⟩
  | cons s rest ih =>
    intro previous hapart hpos
    have hrest := List.pairwise_append.mp hapart
    obtain ⟨hs, hpos⟩ := List.forall_mem_cons.mp hpos
    obtain ⟨hbehind, horder⟩ := ih (some s) hrest.2.1 hpos
    have hfrom : InOrder (s.span :: (stressSymbolsAfter (some s) rest).map (·.span)) :=
      horder.cons hs fun s' hs' => by
        obtain ⟨symbol, hsymbol, rfl⟩ := List.mem_map.mp hs'
        exact hbehind s rfl symbol hsymbol
    have hstart : ∀ symbol ∈ (⟨s.stress.symbol, s.span⟩ : Symbol) ::
        stressSymbolsAfter (some s) rest, s.span.start ≤ symbol.span.start := by
      refine List.forall_mem_cons.mpr ⟨Nat.le_refl _, fun symbol hsymbol => ?_⟩
      exact Nat.le_trans (Nat.le_of_lt hs) (hbehind s rfl symbol hsymbol)
    -- The gap is there if and only if the syllable in front belongs to another word.
    cases previous with
    | none => exact ⟨fun _ h => (by cases h), hfrom⟩
    | some p =>
      obtain ⟨hle, hgap⟩ := hrest.2.2 p (List.mem_singleton_self p) s List.mem_cons_self
      rw [stressSymbolsAfter]
      split
      · refine ⟨fun p' hp' symbol hsymbol => ?_, hfrom⟩
        obtain rfl := Option.some.inj hp'
        exact Nat.le_trans hle (hstart symbol hsymbol)
      · rename_i hword
        refine ⟨fun p' hp' symbol hsymbol => ?_, hfrom.cons (hgap hword) fun s' hs' => ?_⟩
        · obtain rfl := Option.some.inj hp'
          rcases List.mem_cons.mp hsymbol with rfl | hsymbol
          · exact Nat.le_refl _
          · exact Nat.le_trans hle (hstart symbol hsymbol)
        · obtain ⟨symbol, hsymbol, rfl⟩ := List.mem_map.mp hs'
          exact hstart symbol hsymbol

theorem soundClassSymbol_span {e : Element} {i : Nat} {symbol : Symbol}
    (h : soundClassSymbol e i = some symbol) : symbol.span = ⟨i, i + 1⟩ := by
  unfold soundClassSymbol at h
  split at h
  · obtain rfl := Option.some.inj h
    rfl
  · split at h
    · obtain rfl := Option.some.inj h
      rfl
    · cases h

/-- The numbers of the items of a list increase. -/
theorem zipIdx_pairwise {α : Type} (l : List α) : l.zipIdx.Pairwise fun a b => a.2 < b.2 := by
  refine List.pairwise_map.mp ?_
  rw [List.zipIdx_map_snd]
  exact List.pairwise_lt_range'

/-- The symbols of a transcription are in order. -/
theorem symbols_inOrder (kind : Kind) (t : Transcription) :
    InOrder ((symbols kind t).map (·.span)) := by
  cases kind with
  | stress =>
    exact (stressSymbolsAfter_inOrder t.syllables none t.syllables_apart t.syllables_nonempty).2
  | soundClass =>
    constructor
    · intro s hs
      obtain ⟨symbol, hsymbol, rfl⟩ := List.mem_map.mp hs
      obtain ⟨⟨e, i⟩, -, hsymbol⟩ := List.mem_filterMap.mp hsymbol
      rw [soundClassSymbol_span hsymbol]
      exact Nat.lt_succ_self i
    · refine List.pairwise_map.mpr (List.pairwise_filterMap.mpr ((zipIdx_pairwise t).imp ?_))
      intro a b hlt symbol hsymbol symbol' hsymbol'
      rw [soundClassSymbol_span hsymbol, soundClassSymbol_span hsymbol']
      exact hlt

/-! ### Lengths of matches -/

theorem suffixes_getElem? : ∀ {w : Text} {i : Nat} {rest : Text}, (suffixes w)[i]? = some rest →
    i ≤ w.length := by
  intro w
  induction w with
  | nil =>
    intro i rest h
    cases i with
    | zero => exact Nat.le_refl 0
    | succ i => cases h
  | cons c w ih =>
    intro i rest h
    cases i with
    | zero => exact Nat.zero_le _
    | succ i => exact Nat.succ_le_succ (ih h)

/-- No match is longer than what is left. -/
theorem lengths_within {stops : Text → Bool} {w : Text} : ∀ {items : List Item} {i count : Nat},
    (lengths stops w items)[i]? = some (some count) → i + count ≤ w.length := by
  intro items
  induction items with
  | nil =>
    intro i count h
    rw [lengths, List.getElem?_map] at h
    obtain ⟨rest, hrest, hcount⟩ := Option.map_eq_some_iff.mp h
    split at hcount
    · obtain rfl := Option.some.inj hcount
      exact suffixes_getElem? hrest
    · cases hcount
  | cons item items ih =>
    intro i count h
    rw [lengths, List.getElem?_mapIdx] at h
    obtain ⟨rest, -, hcount⟩ := Option.map_eq_some_iff.mp h
    -- What the items behind take is bounded, whatever number of symbols this item takes.
    obtain ⟨taken, -, htaken⟩ := List.exists_of_findSome?_eq_some hcount
    obtain ⟨later, hlater, rfl⟩ := Option.map_eq_some_iff.mp htaken
    have hget : (lengths stops w items)[i + taken]? = some (some later) := by
      rw [List.getD_eq_getElem?_getD] at hlater
      cases hsome : (lengths stops w items)[i + taken]? with
      | none => rw [hsome] at hlater; cases hlater
      | some length => rw [hsome] at hlater; exact congrArg some hlater
    have := ih hget
    omega

/-! ### The scan -/

/-- A scan takes matches that are not empty, behind the positions that it passes over. -/
theorem scan_taken : ∀ (found : List (Option Nat)) (position skip : Nat),
    ∀ s ∈ scan position skip found, position + skip ≤ s.start ∧ s.start < s.stop ∧
      ∃ k count, found[k]? = some (some count) ∧ s.start = position + k ∧
        s.stop = s.start + count := by
  intro found
  induction found with
  | nil => intro position skip s hs; cases skip <;> cases hs
  | cons length rest ih =>
    intro position skip s hs
    -- Whatever is passed over, a match found behind this position is numbered one higher here.
    have later : ∀ {skip'}, s ∈ scan (position + 1) skip' rest → skip ≤ skip' + 1 →
        position + skip ≤ s.start ∧ s.start < s.stop ∧
          ∃ k count, (length :: rest)[k]? = some (some count) ∧ s.start = position + k ∧
            s.stop = s.start + count := by
      intro skip' hs hskip
      obtain ⟨hle, hlt, k, count, hget, hstart, hstop⟩ := ih _ _ s hs
      exact ⟨by omega, hlt, k + 1, count, hget, by omega, hstop⟩
    match skip, length with
    | skip + 1, length => exact later hs (Nat.le_refl _)
    | 0, none => exact later hs (Nat.zero_le _)
    | 0, some 0 => exact later hs (Nat.zero_le _)
    | 0, some (count + 1) =>
      rw [scan] at hs
      rcases List.mem_cons.mp hs with rfl | hs
      · exact ⟨Nat.le_refl _, Nat.lt_add_of_pos_right (Nat.succ_pos count), 0, count + 1, rfl, rfl,
          rfl⟩
      · exact later hs (Nat.zero_le _)

theorem scan_inOrder : ∀ (found : List (Option Nat)) (position skip : Nat),
    InOrder (scan position skip found) := by
  intro found
  induction found with
  | nil => intro position skip; cases skip <;> exact .nil
  | cons length rest ih =>
    intro position skip
    match skip, length with
    | skip + 1, length => exact ih _ _
    | 0, none => exact ih _ _
    | 0, some 0 => exact ih _ _
    | 0, some (count + 1) =>
      refine (ih (position + 1) count).cons (Nat.lt_add_of_pos_right (Nat.succ_pos count))
        fun s hs => ?_
      obtain ⟨hle, -⟩ := scan_taken rest _ _ s hs
      show position + count + 1 ≤ s.start
      omega

/-! ### Hits -/

/-- The elements of symbols are covered by those from the first to the last. -/
theorem covers_elementSpan {symbols : List Symbol} {s : Span} (hlt : s.start < s.stop)
    (hstop : s.stop ≤ symbols.length) :
    Covers (symbols.map (·.span)) s (elementSpan symbols s) := by
  have hfirst : symbols[s.start]? = some symbols[s.start] := List.getElem?_eq_getElem (by omega)
  have hlast : symbols[s.stop - 1]? = some symbols[s.stop - 1] :=
    List.getElem?_eq_getElem (by omega)
  refine ⟨symbols[s.start].span, symbols[s.stop - 1].span, ?_, ?_, ?_⟩
  · rw [List.getElem?_map, hfirst]
    rfl
  · rw [List.getElem?_map, hlast]
    rfl
  · rw [elementSpan, hfirst, hlast]

/-- The spans of symbols that a search takes. -/
def foundSpans (kind : Kind) (items : List Item) (t : Transcription) : List Span :=
  scan 0 0 (lengths (fun _ => true) (spelling kind t) items)

theorem foundSpans_within {kind : Kind} {items : List Item} {t : Transcription} :
    ∀ s ∈ foundSpans kind items t, s.start < s.stop ∧ s.stop ≤ (symbols kind t).length := by
  intro s hs
  obtain ⟨-, hlt, k, count, hget, hstart, hstop⟩ := scan_taken _ 0 0 s hs
  have hwithin := lengths_within hget
  rw [spelling, List.length_map] at hwithin
  exact ⟨hlt, by omega⟩

/-- The hits of a pattern cover spans of elements in order. -/
theorem find_inOrder (kind : Kind) (items : List Item) (t : Transcription) :
    InOrder ((find kind items t).map (·.span)) := by
  unfold find
  dsimp only
  rw [List.map_map]
  refine (symbols_inOrder kind t).map_covers (scan_inOrder _ 0 0) fun s hs => ?_
  obtain ⟨hlt, hstop⟩ := foundSpans_within s hs
  exact covers_elementSpan hlt hstop

end PhoneticSearch.Sequence
