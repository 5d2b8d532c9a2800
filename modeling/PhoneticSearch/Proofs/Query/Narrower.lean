import Mathlib.Data.List.Basic
import Mathlib.Data.List.Flatten
import PhoneticSearch.Query.Basic

/-!
# Queries that leave out more

A query is narrower than another one if it searches for the same and each of its filters
is that of the other query, unless the other query does not use it.  What a filter sees
of a record does not depend on what other filters leave out: positions are those among
all groups, words or syllables.  So a narrower query finds the same results with some
left out (`NarrowerThan.results_sublist`).
-/

namespace PhoneticSearch

theorem PositionFlags.select_sublist {α : Type} (flags : PositionFlags) (items : List α) :
    (flags.select items).Sublist (({} : PositionFlags).select items) := by
  refine List.monotone_filter_right _ ?_
  rintro ⟨i, p, x⟩ -
  cases p <;> rfl

/-- A function that gives what another one gives or nothing leaves out some results. -/
theorem filterMap_sublist_filterMap {α β : Type} {f g : α → Option β}
    (h : ∀ x, f x = none ∨ f x = g x) (l : List α) :
    (l.filterMap f).Sublist (l.filterMap g) := by
  induction l with
  | nil => exact List.Sublist.slnil
  | cons x l ih =>
    rcases h x with hx | hx
    · rw [List.filterMap_cons_none hx]
      cases hg : g x with
      | none =>
        rw [List.filterMap_cons_none hg]
        exact ih
      | some y =>
        rw [List.filterMap_cons_some hg]
        exact ih.cons y
    · cases hg : g x with
      | none =>
        rw [List.filterMap_cons_none hg, List.filterMap_cons_none (hx.trans hg)]
        exact ih
      | some y =>
        rw [List.filterMap_cons_some hg, List.filterMap_cons_some (hx.trans hg)]
        exact ih.cons_cons y

namespace Query

/-- Whether a query searches for the same as another one, and each of its filters is that
of the other one, as far as the other one uses it. -/
structure NarrowerThan (q q' : Query) : Prop where
  searchTier : q.searchTier = q'.searchTier
  searchBy : q.searchBy = q'.searchBy
  syllablesInWords : q.syllablesInWords = q'.syllablesInWords
  includeAligned : q.includeAligned = q'.includeAligned
  primary : q.primary = q'.primary
  groupTiers : q.groupTiers = q'.groupTiers
  wordTiers : q.wordTiers = q'.wordTiers
  scores : q.scores = q'.scores
  targetResult : q'.targetResult.inUse = false ∨ q.targetResult = q'.targetResult
  actualResult : q'.actualResult.inUse = false ∨ q.actualResult = q'.actualResult
  tierFilter : q'.tierFilter.inUse = false ∨ q.tierFilter = q'.tierFilter
  alignedGroup : q'.alignedGroup.inUse = false ∨ q.alignedGroup = q'.alignedGroup
  wordPattern : q'.wordPattern.inUse = false ∨ q.wordPattern = q'.wordPattern
  alignedWord : q'.alignedWord.inUse = false ∨ q.alignedWord = q'.alignedWord
  groups : q'.groups.inUse = false ∨ q.groups = q'.groups
  words : q'.words.flags = {} ∨ q.words = q'.words
  syllables : q'.syllables.flags = {} ∨ q.syllables = q'.syllables
  speaker : (∀ p date, q'.speaker.check p date = true) ∨ q.speaker = q'.speaker

variable {q q' : Query}

/-- A value that a filter of a narrower query lets pass is let pass by that of the other
one. -/
theorem passed_of_narrower {f f' : PatternFilter} (h : f'.inUse = false ∨ f = f')
    (accepts : PatternFilter → Bool) (hf : (!f.inUse || accepts f) = true) :
    (!f'.inUse || accepts f') = true := by
  rcases h with h | rfl
  · rw [h]
    rfl
  · exact hf

namespace NarrowerThan

theorem passes (h : q.NarrowerThan q') {f f' : PatternFilter} (hf : f'.inUse = false ∨ f = f')
    {t t' : TierFilter} (ht : t'.inUse = false ∨ t = t') {o : SearchObject}
    (hpasses : q.passes f t o = true) : q'.passes f' t' o = true := by
  rw [Query.passes, Bool.and_eq_true] at hpasses ⊢
  rw [h.searchTier] at hpasses
  refine ⟨passed_of_narrower hf (·.accepts q'.searchTier o) hpasses.1, ?_⟩
  rcases ht with ht | rfl
  · rw [ht]
    rfl
  · exact hpasses.2

theorem acceptsGroup (h : q.NarrowerThan q') {g : GroupView} (hg : q.acceptsGroup g = true) :
    q'.acceptsGroup g = true :=
  h.passes h.tierFilter h.alignedGroup hg

theorem acceptsWord (h : q.NarrowerThan q') {w : Word} (hw : q.acceptsWord w = true) :
    q'.acceptsWord w = true :=
  h.passes h.wordPattern h.alignedWord hw

theorem acceptsSides (h : q.NarrowerThan q') {hit : Hit} {aligned : Option AlignedHit}
    (hsides : q.acceptsSides hit aligned = true) : q'.acceptsSides hit aligned = true := by
  unfold Query.acceptsSides at hsides ⊢
  rw [h.searchTier] at hsides
  cases hside : q'.searchTier.side? with
  | none => rfl
  | some side =>
    rw [hside] at hsides
    cases side with
    | target | actual =>
      rw [Bool.and_eq_true] at hsides ⊢
      exact ⟨passed_of_narrower h.targetResult (·.check _) hsides.1,
        passed_of_narrower h.actualResult (·.check _) hsides.2⟩

/-! ### What is searched -/

theorem wordsOf_sublist (h : q.NarrowerThan q') (g : GroupView) :
    (q.wordsOf g).Sublist (q'.wordsOf g) := by
  have hselect : (q.words.select g.words).Sublist (q'.words.select g.words) := by
    rcases h.words with hall | heq
    · rw [WordFilter.select, WordFilter.select, hall]
      exact q.words.flags.select_sublist g.words
    · rw [heq]
  -- First fewer of the selected words are accepted, then fewer words are selected.
  refine (filterMap_sublist_filterMap ?_ _).trans (hselect.filterMap _)
  rintro ⟨i, p, w⟩
  by_cases hw : q.acceptsWord w = true
  · exact Or.inr (by simp only [if_pos hw, if_pos (h.acceptsWord hw)])
  · exact Or.inl (if_neg hw)

theorem syllablesOf_sublist (h : q.NarrowerThan q') (scope : Scope) (position : Option Position) :
    (q.syllablesOf scope position).Sublist (q'.syllablesOf scope position) := by
  unfold syllablesOf
  rw [h.searchTier]
  cases q'.searchTier.side? with
  | none => exact List.Sublist.slnil
  | some side =>
    refine List.Sublist.map _ ?_
    rcases h.syllables with hall | heq
    · refine List.monotone_filter_right _ ?_
      intro s _
      rw [SyllableFilter.accepts, hall]
      cases s.position <;> cases s.stress <;> rfl
    · rw [heq]

theorem candidates_sublist (h : q.NarrowerThan q') (g : GroupView) :
    (q.candidates g).Sublist (q'.candidates g) := by
  unfold candidates
  rw [h.searchBy, h.syllablesInWords]
  cases q'.searchBy with
  | group => exact List.Sublist.refl _
  | word => exact (h.wordsOf_sublist g).map _
  | syllable =>
    dsimp only
    split
    · refine (List.Sublist.flatMap_right _ ?_).trans ((h.wordsOf_sublist g).flatMap _)
      rintro ⟨position, w⟩ -
      exact h.syllablesOf_sublist (.word w) (some position)
    · exact h.syllablesOf_sublist (.group g) none

/-! ### What is found -/

variable (session : Session) (recordIndex : Nat) (record : Record)

/-- A hit gives the same result or none. -/
theorem result_eq (h : q.NarrowerThan q') (g : GroupView) (groupData : TierData) (c : Candidate)
    (hit : Hit) : q.result session recordIndex record g groupData c hit = none ∨
      q.result session recordIndex record g groupData c hit =
        q'.result session recordIndex record g groupData c hit := by
  unfold result
  dsimp only
  rw [h.searchTier]
  by_cases hsides : q.acceptsSides hit (c.object.place q'.searchTier hit).aligned? = true
  · refine Or.inr ?_
    rw [if_pos hsides, if_pos (h.acceptsSides hsides)]
    simp only [wordData, schema, scoreMetadata, h.searchTier, h.includeAligned, h.wordTiers,
      h.scores]
  · exact Or.inl (if_neg hsides)

theorem candidateResults_sublist (h : q.NarrowerThan q') (g : GroupView) (groupData : TierData)
    (c : Candidate) : (q.candidateResults session recordIndex record g groupData c).Sublist
      (q'.candidateResults session recordIndex record g groupData c) := by
  unfold candidateResults
  rw [h.searchTier, h.primary]
  cases c.object.tierValue q'.searchTier with
  | none => exact List.Sublist.slnil
  | some v =>
    exact filterMap_sublist_filterMap
      (h.result_eq session recordIndex record g groupData c) (q'.primary.find v)

theorem groupResults_sublist (h : q.NarrowerThan q') (g : GroupView) :
    (q.groupResults session recordIndex record g).Sublist
      (q'.groupResults session recordIndex record g) := by
  unfold groupResults
  by_cases hg : q.acceptsGroup g = true
  · -- The data of the group are read before anything is left out of it.
    rw [if_pos hg, if_pos (h.acceptsGroup hg), h.groupTiers]
    refine (List.Sublist.flatMap_right _ ?_).trans ((h.candidates_sublist g).flatMap _)
    intro c _
    exact h.candidateResults_sublist session recordIndex record g _ c
  · rw [if_neg hg]
    exact List.nil_sublist _

theorem acceptsRecord (h : q.NarrowerThan q') {session : Session} {record : Record}
    (hrecord : q.acceptsRecord session record = true) :
    q'.acceptsRecord session record = true := by
  unfold Query.acceptsRecord at hrecord ⊢
  rw [h.primary, h.searchTier, Bool.and_assoc, Bool.and_eq_true] at hrecord
  rw [Bool.and_assoc, Bool.and_eq_true]
  refine ⟨?_, hrecord.2⟩
  rcases h.speaker with hall | heq
  · exact hall _ _
  · rw [← heq]
    exact hrecord.1

/-- A narrower query finds the same results in the same order, with some left out. -/
theorem results_sublist (h : q.NarrowerThan q') : (q.results session recordIndex record).Sublist
    (q'.results session recordIndex record) := by
  unfold results
  by_cases hrecord : q.acceptsRecord session record = true
  · rw [if_pos hrecord, if_pos (h.acceptsRecord hrecord)]
    have hselect : (q.groups.select record).Sublist (q'.groups.select record) := by
      rcases h.groups with hunused | heq
      · simp only [GroupFilter.select, hunused, Bool.false_eq_true, if_false]
        exact PositionFlags.select_sublist _ _
      · rw [heq]
    refine (List.Sublist.flatMap_right _ ?_).trans (hselect.flatMap _)
    rintro ⟨i, p, g⟩ -
    exact h.groupResults_sublist session recordIndex record g
  · rw [if_neg hrecord]
    exact List.nil_sublist _

/-- Two queries each of which is narrower than the other one find the same results. -/
theorem results_eq (h : q.NarrowerThan q') (h' : q'.NarrowerThan q) : q.results = q'.results := by
  funext session recordIndex record
  exact (h.results_sublist session recordIndex record).antisymm
    (h'.results_sublist session recordIndex record)

end NarrowerThan

end Query

end PhoneticSearch
