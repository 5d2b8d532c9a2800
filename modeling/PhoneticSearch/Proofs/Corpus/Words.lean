import PhoneticSearch.Filter.Syllable
import PhoneticSearch.Proofs.Transcription.WordSyllables

/-!
# The words of a group

The words of a group go by numbers, which may be more than the words of one of its
transcriptions or texts (`length_wordSpans_le`, `length_words_le`); those that are too great
stand for nothing there (`flatMap_range_getElem?`).  So what is made of the words on one side
is made of the words of that transcription, and its syllables, its stress pattern and its
syllabified text are those of its words (`syllabification_wordwise`).
-/

namespace PhoneticSearch

/-- The greatest of some numbers is not less than any of them, nor than where they start. -/
theorem le_foldl_max : ∀ (counts : List Nat) (n : Nat),
    n ≤ counts.foldl max n ∧ ∀ count ∈ counts, count ≤ counts.foldl max n := by
  intro counts
  induction counts with
  | nil => exact fun n => ⟨Nat.le_refl n, fun count h => nomatch h⟩
  | cons first counts ih =>
    intro n
    obtain ⟨hstart, hcounts⟩ := ih (max n first)
    refine ⟨Nat.le_trans (Nat.le_max_left n first) hstart, fun count h => ?_⟩
    rcases List.mem_cons.mp h with rfl | h
    · exact Nat.le_trans (Nat.le_max_right n count) hstart
    · exact hcounts count h

/-- A group has as many words as either of its transcriptions, or more. -/
theorem Group.length_wordSpans_le (g : Group) (side : Side) :
    (g.transcription side).wordSpans.length ≤ g.wordCount := by
  refine Nat.le_trans ?_ (le_foldl_max _ _).1
  cases side with
  | target => exact Nat.le_max_left _ _
  | actual => exact Nat.le_max_right _ _

/-- A group has as many words as any of its texts, or more. -/
theorem Group.length_words_le {g : Group} {tier : TierName} {t : Text}
    (h : g.text? tier = some t) : (Text.words t).length ≤ g.wordCount := by
  have hmem : t ∈ g.orthography :: g.tiers.map (·.2) := by
    cases tier with
    | orthography =>
      obtain rfl := Option.some.inj h
      exact List.mem_cons_self
    | user name =>
      obtain ⟨before, after, hentry, -⟩ := List.lookup_eq_some_iff.mp h
      refine List.mem_cons_of_mem _ (List.mem_map.mpr ⟨(name, t), ?_, rfl⟩)
      simp [hentry]
    | ipa side => cases h
    | notes => cases h
  exact (le_foldl_max _ _).2 _ (List.mem_map_of_mem hmem)

/-- What is made of the items of a list by their numbers, where there may be more numbers than
items. -/
theorem flatMap_range_getElem? {α β : Type} (f : α → List β) : ∀ (l : List α) {n : Nat},
    l.length ≤ n → ((List.range n).flatMap fun i => l[i]?.elim [] f) = l.flatMap f := by
  intro l
  induction l with
  | nil => intro n _; simp
  | cons a l ih =>
    intro n hn
    obtain ⟨n, rfl⟩ : ∃ m, n = m + 1 := ⟨n - 1, by rw [List.length_cons] at hn; omega⟩
    rw [List.range_succ_eq_map, List.flatMap_cons, List.flatMap_map, List.flatMap_cons,
      ← ih (Nat.le_of_succ_le_succ hn)]
    rfl

/-- What is made of the words of a group on one side is made of the words of the
transcription. -/
theorem GroupView.flatMap_words {β : Type} (g : GroupView) (side : Side)
    (f : Span → List β) :
    (g.words.flatMap fun w => (w.elementSpan? side).elim [] f) =
      (g.group.transcription side).wordSpans.flatMap f := by
  rw [GroupView.words, Group.words, List.flatMap_map]
  exact flatMap_range_getElem? f _ (g.group.length_wordSpans_le side)

/-! ### Syllables -/

open Transcription

/-- A filter that accepts all positions and stresses leaves out no syllable. -/
theorem SyllableFilter.select_all (id : Text) (bySyllable : Bool) (state : FilterState)
    (scope : Scope) (side : Side) :
    (⟨id, {}, bySyllable, state⟩ : SyllableFilter).select scope side = scope.syllables side := by
  refine List.filter_eq_self.mpr fun s _ => ?_
  rw [SyllableFilter.accepts]
  cases s.position <;> cases s.stress <;> rfl

/-- The syllables of a scope stand where its elements do. -/
theorem Scope.map_syllables (scope : Scope) (side : Side) :
    ((scope.syllables side).map fun s => (s.span, s.stress)) =
      (scope.elementSpan? side).elim [] fun span =>
        placedSyllables span.start ((scope.inGroup.transcription side).subsection span) := by
  unfold Scope.syllables
  cases scope.elementSpan? side with
  | none => rfl
  | some span =>
    show List.map _ (List.map _ _) = placedSyllables _ _
    rw [List.map_map, placedSyllables]
    exact (List.map_map (g := fun s : Syllable => (s.span.shift span.start, s.stress))
      (f := Prod.fst)).symm.trans (by rw [List.zipIdx_map_fst])

/-- Syllabification goes word by word.  The syllables of a group are those of its words in
order, where all positions and stresses are accepted; its stress pattern is made of those of
its words that have one, with spaces between them; and its syllabified text is made of those
of its words, with what stands between them left as it is, which is what breaks words. -/
theorem GroupView.syllabification_wordwise (g : GroupView) (side : Side) (id : Text)
    (bySyllable : Bool) (state : FilterState) :
    let f : SyllableFilter := ⟨id, {}, bySyllable, state⟩
    let t := g.group.transcription side
    (g.words.flatMap fun w => (f.select (.word w) side).map fun s => (s.span, s.stress)) =
      (f.select (.group g) side).map (fun s => (s.span, s.stress)) ∧
    t.stressPattern = Text.join [' ']
      ((t.wordSpans.map fun w => (t.subsection w).stressPattern).filter (!·.isEmpty)) ∧
    t.syllabified = writeWords syllabified t 0 t.wordSpans ∧
    ∀ i e, t[i]? = some e →
      (e.isWordBreak = true ↔ ¬ ∃ w ∈ t.wordSpans, w.contains i = true) := by
  intro f t
  refine ⟨?_, t.stressPattern_words, t.syllabified_words, fun i e he => t.isWordBreak_iff he⟩
  have hwhole : t.subsection ⟨0, t.length⟩ = t := List.take_length
  have hgroup : ((Scope.group g).syllables side).map (fun s => (s.span, s.stress)) =
      placedSyllables 0 (t.subsection ⟨0, t.length⟩) := Scope.map_syllables (.group g) side
  simp only [f, SyllableFilter.select_all, Scope.map_syllables (.word _)]
  have hwords := g.flatMap_words side fun w => placedSyllables w.start (t.subsection w)
  rw [GroupView.words, Group.words, List.flatMap_map] at hwords ⊢
  rw [hgroup, hwhole, syllables_words, ← hwords]
  rfl

end PhoneticSearch
