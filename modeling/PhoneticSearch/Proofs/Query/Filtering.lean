import PhoneticSearch.Proofs.Query.Address
import PhoneticSearch.Proofs.Query.Narrower

/-!
# Filters only leave out results

The filters of a configuration are idle if they have no pattern that can be used; such a
filter may be absent as well.  `QueryConfig.unfiltered` is the configuration that searches
for the same without any filter.  Both are cases of one relation of configurations,
`QueryConfig.NarrowerThan`, which is kept when dependent options are cleared
(`NarrowerThan.resolve`) and carries over to the queries that are built
(`NarrowerThan.build`).
-/

namespace PhoneticSearch

/-! ### Filters without effect -/

/-- Whether a pattern cannot be used: it is empty, or it cannot be compiled. -/
def PatternSpec.IsIdle (p : PatternSpec) : Prop :=
  p.expression = [] ∨ ∃ fault, CompiledPattern.compile p = .error fault

/-- Whether a filter of a tier cannot be used: its pattern cannot, the name of its tier is
blank, or it is switched off. -/
def TierFilterConfig.IsIdle (f : TierFilterConfig) : Prop :=
  f.pattern.IsIdle ∨ Text.trim f.tier = [] ∨ f.enabled = false

/-- Case is only cleared where compiling does not look at it. -/
theorem CompiledPattern.compile_resolveCase (p : PatternSpec) :
    compile (QueryConfig.resolveCase p) = compile p := by
  obtain ⟨expression, dialect, caseSensitive, exact⟩ := p
  cases dialect with
  | plain | regex =>
    simp only [QueryConfig.resolveCase, Dialect.supportsCase, Bool.and_true]
  | phonex | stress | soundClass => rfl

theorem PatternSpec.IsIdle.resolveCase {p : PatternSpec} (h : p.IsIdle) :
    (QueryConfig.resolveCase p).IsIdle := by
  rcases h with h | ⟨fault, h⟩
  · exact Or.inl h
  · exact Or.inr ⟨fault, (CompiledPattern.compile_resolveCase p).trans h⟩

theorem PatternFilter.pattern?_of_isIdle (id : Text) {p : PatternSpec} (h : p.IsIdle) :
    (PatternFilter.ofSpec id p).pattern? = none := by
  unfold PatternFilter.pattern? PatternFilter.ofSpec
  dsimp only
  by_cases hempty : p.expression.isEmpty = true
  · rw [if_pos hempty]
  · rcases h with h | ⟨fault, h⟩
    · rw [h] at hempty
      exact absurd rfl hempty
    · rw [if_neg hempty, h]

theorem PatternFilter.inUse_of_pattern? {f : PatternFilter} (h : f.pattern? = none) :
    f.inUse = false := by
  rw [PatternFilter.inUse, h]
  exact Bool.and_false _

theorem TierFilterConfig.IsIdle.resolve {f : TierFilterConfig} (h : f.IsIdle) :
    (QueryConfig.resolveTierCase (QueryConfig.resolveTierFilter f)).IsIdle := by
  unfold QueryConfig.resolveTierFilter
  split
  · exact Or.inr (Or.inr rfl)
  · exact h.imp PatternSpec.IsIdle.resolveCase id

theorem TierFilter.inUse_of_isIdle (id : Text) {f : TierFilterConfig} (h : f.IsIdle) :
    (TierFilter.ofConfig id f).inUse = false := by
  rw [TierFilter.inUse]
  rcases h with h | h | h
  · -- Switching the filter on does not give it a pattern.
    have hpattern : (TierFilter.ofConfig id f).pattern.pattern? = none :=
      PatternFilter.pattern?_of_isIdle (Parameter.idIn id "patternFilter") h
    rw [PatternFilter.inUse_of_pattern? hpattern, Bool.and_false]
  · have htier : (TierFilter.ofConfig id f).tier = none :=
      if_pos (by rw [h]; rfl)
    rw [htier]
    simp
  · have hstate : (TierFilter.ofConfig id f).state.enabled = false := h
    rw [hstate]
    rfl

/-! ### Configurations -/

namespace QueryConfig

/-- Whether a configuration asks for the same as another one, and each of its filters is
that of the other one, as far as that one has an effect. -/
structure NarrowerThan (c c' : QueryConfig) : Prop where
  searchTier : c.searchTier = c'.searchTier
  searchBy : c.searchBy = c'.searchBy
  syllablesInWords : c.syllablesInWords = c'.syllablesInWords
  includeAligned : c.includeAligned = c'.includeAligned
  primary : c.primary = c'.primary
  groupTiers : c.groupTiers = c'.groupTiers
  wordTiers : c.wordTiers = c'.wordTiers
  scores : c.scores = c'.scores
  targetResult : c'.targetResult.IsIdle ∨ c.targetResult = c'.targetResult
  actualResult : c'.actualResult.IsIdle ∨ c.actualResult = c'.actualResult
  tierFilter : c'.tierFilter.IsIdle ∨ c.tierFilter = c'.tierFilter
  alignedGroup : c'.alignedGroup.IsIdle ∨ c.alignedGroup = c'.alignedGroup
  wordPattern : c'.wordPattern.IsIdle ∨ c.wordPattern = c'.wordPattern
  alignedWord : c'.alignedWord.IsIdle ∨ c.alignedWord = c'.alignedWord
  groups : c'.groups = {} ∨ c.groups = c'.groups
  words : c'.words = {} ∨ c.words = c'.words
  syllables : c'.syllables = {} ∨ c.syllables = c'.syllables
  participant : c'.participant = {} ∨ c.participant = c'.participant

variable {c c' : QueryConfig}

/-- Configurations that search the same tier by the same objects are both searched by word
instead, or neither is. -/
theorem resolveSearchBy_cases (htier : c.searchTier = c'.searchTier)
    (hsearch : c.searchBy = c'.searchBy) :
    (c.resolveSearchBy = { c with searchBy := .word } ∧
      c'.resolveSearchBy = { c' with searchBy := .word }) ∨
    (c.resolveSearchBy = c ∧ c'.resolveSearchBy = c') := by
  unfold QueryConfig.resolveSearchBy
  rw [htier, hsearch]
  split
  · exact Or.inl ⟨rfl, rfl⟩
  · exact Or.inr ⟨rfl, rfl⟩

namespace NarrowerThan

theorem refl (c : QueryConfig) : c.NarrowerThan c :=
  { searchTier := rfl, searchBy := rfl, syllablesInWords := rfl, includeAligned := rfl
    primary := rfl, groupTiers := rfl, wordTiers := rfl, scores := rfl
    targetResult := Or.inr rfl, actualResult := Or.inr rfl, tierFilter := Or.inr rfl
    alignedGroup := Or.inr rfl, wordPattern := Or.inr rfl, alignedWord := Or.inr rfl
    groups := Or.inr rfl, words := Or.inr rfl, syllables := Or.inr rfl
    participant := Or.inr rfl }

theorem resolveSearchBy (h : c.NarrowerThan c') :
    c.resolveSearchBy.NarrowerThan c'.resolveSearchBy := by
  rcases resolveSearchBy_cases h.searchTier h.searchBy with ⟨hc, hc'⟩ | ⟨hc, hc'⟩
  · rw [hc, hc']
    exact { h with searchBy := rfl }
  · rw [hc, hc']
    exact h

theorem searchesWords (h : c.NarrowerThan c') : c.searchesWords = c'.searchesWords := by
  rw [QueryConfig.searchesWords, QueryConfig.searchesWords, h.searchBy, h.syllablesInWords]

/-- Where words are not searched, the filters of words are cleared on both sides. -/
theorem resolveWords (h : c.NarrowerThan c') : c.resolveWords.NarrowerThan c'.resolveWords := by
  unfold QueryConfig.resolveWords
  rw [h.searchesWords]
  split
  · exact h
  · exact { h with
      alignedWord := Or.inl (Or.inr (Or.inr rfl))
      wordPattern := Or.inl (Or.inl rfl)
      wordTiers := rfl }

theorem resolveCase {p p' : PatternSpec} (h : p'.IsIdle ∨ p = p') :
    (QueryConfig.resolveCase p').IsIdle ∨
      QueryConfig.resolveCase p = QueryConfig.resolveCase p' :=
  h.imp PatternSpec.IsIdle.resolveCase (congrArg _)

theorem resolveTier {f f' : TierFilterConfig} (h : f'.IsIdle ∨ f = f') :
    (resolveTierCase (resolveTierFilter f')).IsIdle ∨
      resolveTierCase (resolveTierFilter f) = resolveTierCase (resolveTierFilter f') :=
  h.imp TierFilterConfig.IsIdle.resolve (congrArg fun f => resolveTierCase (resolveTierFilter f))

theorem resolvePatterns (h : c.NarrowerThan c') :
    c.resolvePatterns.NarrowerThan c'.resolvePatterns :=
  { h with
    primary := congrArg QueryConfig.resolveCase h.primary
    targetResult := resolveCase h.targetResult
    actualResult := resolveCase h.actualResult
    tierFilter := resolveCase h.tierFilter
    wordPattern := resolveCase h.wordPattern
    alignedGroup := resolveTier h.alignedGroup
    alignedWord := resolveTier h.alignedWord }

/-- Clearing the options that have no effect keeps a configuration narrower. -/
theorem resolve (h : c.NarrowerThan c') : c.resolve.NarrowerThan c'.resolve :=
  h.resolveSearchBy.resolveWords.resolvePatterns

theorem pattern_inUse (id : Text) {p p' : PatternSpec} (h : p'.IsIdle ∨ p = p') :
    (PatternFilter.ofSpec id p').inUse = false ∨
      PatternFilter.ofSpec id p = PatternFilter.ofSpec id p' :=
  h.imp (fun h => PatternFilter.inUse_of_pattern? (PatternFilter.pattern?_of_isIdle id h))
    (congrArg _)

theorem tier_inUse (id : Text) {f f' : TierFilterConfig} (h : f'.IsIdle ∨ f = f') :
    (TierFilter.ofConfig id f').inUse = false ∨
      TierFilter.ofConfig id f = TierFilter.ofConfig id f' :=
  h.imp (TierFilter.inUse_of_isIdle id) (congrArg _)

/-- A narrower configuration gives a narrower query. -/
theorem build (h : c.NarrowerThan c') {speaker speaker' : SpeakerFilter}
    (hspeaker : (∀ p date, speaker'.check p date = true) ∨ speaker = speaker') :
    (Query.build c speaker).NarrowerThan (Query.build c' speaker') :=
  { searchTier := h.searchTier
    searchBy := h.searchBy
    syllablesInWords := h.syllablesInWords
    includeAligned := h.includeAligned
    primary := congrArg (PatternFilter.ofSpec (Query.filterId "primary")) h.primary
    groupTiers := congrArg (TierSelection.read (Query.filterId "groupTiers")) h.groupTiers
    wordTiers := congrArg (TierSelection.read (Query.filterId "wordTiers")) h.wordTiers
    scores := h.scores
    targetResult := pattern_inUse _ h.targetResult
    actualResult := pattern_inUse _ h.actualResult
    tierFilter := pattern_inUse _ h.tierFilter
    alignedGroup := tier_inUse _ h.alignedGroup
    wordPattern := pattern_inUse _ h.wordPattern
    alignedWord := tier_inUse _ h.alignedWord
    groups := by
      refine h.groups.imp ?_ ?_
      · intro hall
        rw [Query.build, hall]
        rfl
      · intro heq
        rw [Query.build, heq]
        rfl
    words := by
      refine h.words.imp id ?_
      intro heq
      rw [Query.build, heq, h.searchesWords]
      rfl
    syllables := by
      refine h.syllables.imp id ?_
      intro heq
      rw [Query.build, heq, h.searchBy]
      rfl
    speaker := hspeaker }

end NarrowerThan

/-! ### Filters that are left out -/

/-- A configuration without filters: all positions and stresses are accepted, and all
patterns of filters are empty. -/
def unfiltered (c : QueryConfig) : QueryConfig :=
  { c with
    groups := {}
    words := {}
    syllables := {}
    targetResult := { dialect := .phonex }
    actualResult := { dialect := .phonex }
    tierFilter := {}
    wordPattern := {}
    alignedGroup := {}
    alignedWord := {}
    participant := {} }

/-- The filters that are patterns. -/
inductive PatternSlot where
  | tierFilter
  | wordPattern
  | targetResult
  | actualResult

/-- The filters that are patterns for a tier of their own. -/
inductive TierSlot where
  | alignedGroup
  | alignedWord

/-- A configuration with another pattern. -/
def withPattern (c : QueryConfig) : PatternSlot → PatternSpec → QueryConfig
  | .tierFilter, p => { c with tierFilter := p }
  | .wordPattern, p => { c with wordPattern := p }
  | .targetResult, p => { c with targetResult := p }
  | .actualResult, p => { c with actualResult := p }

/-- A configuration with another filter of a tier. -/
def withTier (c : QueryConfig) : TierSlot → TierFilterConfig → QueryConfig
  | .alignedGroup, f => { c with alignedGroup := f }
  | .alignedWord, f => { c with alignedWord := f }

theorem isIdle_absent : PatternSpec.IsIdle {} := Or.inl rfl

theorem narrowerThan_unfiltered (c : QueryConfig) : c.NarrowerThan c.unfiltered :=
  { NarrowerThan.refl c with
    targetResult := Or.inl (Or.inl rfl)
    actualResult := Or.inl (Or.inl rfl)
    tierFilter := Or.inl isIdle_absent
    alignedGroup := Or.inl (Or.inl isIdle_absent)
    wordPattern := Or.inl isIdle_absent
    alignedWord := Or.inl (Or.inl isIdle_absent)
    groups := Or.inl rfl
    words := Or.inl rfl
    syllables := Or.inl rfl
    participant := Or.inl rfl }

theorem withPattern_narrowerThan (c : QueryConfig) (slot : PatternSlot) (p : PatternSpec)
    {p' : PatternSpec} (h : p'.IsIdle) :
    (c.withPattern slot p).NarrowerThan (c.withPattern slot p') := by
  cases slot with
  | tierFilter => exact { NarrowerThan.refl c with tierFilter := Or.inl h }
  | wordPattern => exact { NarrowerThan.refl c with wordPattern := Or.inl h }
  | targetResult => exact { NarrowerThan.refl c with targetResult := Or.inl h }
  | actualResult => exact { NarrowerThan.refl c with actualResult := Or.inl h }

theorem withTier_narrowerThan (c : QueryConfig) (slot : TierSlot) (f : TierFilterConfig)
    {f' : TierFilterConfig} (h : f'.IsIdle) :
    (c.withTier slot f).NarrowerThan (c.withTier slot f') := by
  cases slot with
  | alignedGroup => exact { NarrowerThan.refl c with alignedGroup := Or.inl h }
  | alignedWord => exact { NarrowerThan.refl c with alignedWord := Or.inl h }

theorem resolve_participant (c : QueryConfig) : c.resolve.participant = c.participant := by
  have hsearchBy : c.resolveSearchBy.participant = c.participant := by
    unfold resolveSearchBy
    split <;> rfl
  rw [← hsearchBy]
  show c.resolveSearchBy.resolveWords.participant = _
  unfold resolveWords
  split <;> rfl

end QueryConfig

namespace Query

variable {c c' : QueryConfig} {anySpeaker : Bool}

/-- A filter of participants that asks for nothing is never refused and accepts every
speaker. -/
theorem speakerOf_of_isEmpty (h : c.participant = {}) (anySpeaker : Bool) :
    ∃ speaker, speakerOf c anySpeaker = .ok speaker ∧
      ∀ p date, speaker.check p date = true := by
  cases anySpeaker with
  | true => exact ⟨.anyone, rfl, fun _ _ => rfl⟩
  | false =>
    refine ⟨.participants ⟨filterId "speaker", ⟨[], [], []⟩, {}⟩, ?_, fun _ _ => rfl⟩
    rw [speakerOf, h]
    rfl

theorem speakerOf_congr (h : c.participant = c'.participant) (anySpeaker : Bool) :
    speakerOf c anySpeaker = speakerOf c' anySpeaker := by
  rw [speakerOf, speakerOf, h]

/-- Resolving a configuration leaves its speakers as they are. -/
theorem speakerOf_resolve_congr (h : c.participant = c'.participant) (anySpeaker : Bool) :
    speakerOf c.resolve anySpeaker = speakerOf c'.resolve anySpeaker := by
  refine speakerOf_congr ?_ anySpeaker
  rw [c.resolve_participant, c'.resolve_participant, h]

theorem ofConfig_ok {q : Query} (h : ofConfig c anySpeaker = .ok q) :
    ∃ speaker, speakerOf c.resolve anySpeaker = .ok speaker ∧ q = build c.resolve speaker := by
  unfold ofConfig at h
  dsimp only at h
  cases hspeaker : speakerOf c.resolve anySpeaker with
  | error e =>
    rw [hspeaker] at h
    cases h
  | ok speaker =>
    rw [hspeaker] at h
    exact ⟨speaker, rfl, (Except.ok.inj h).symm⟩

/-- A configuration without filters can always be put into effect, and finds all that the
one with filters finds. -/
theorem results_sublist_unfiltered {q : Query} (h : ofConfig c anySpeaker = .ok q) :
    ∃ q', ofConfig c.unfiltered anySpeaker = .ok q' ∧
      ∀ session recordIndex record, (q.results session recordIndex record).Sublist
        (q'.results session recordIndex record) := by
  obtain ⟨speaker, -, rfl⟩ := ofConfig_ok h
  obtain ⟨speaker', hspeaker', hall⟩ := speakerOf_of_isEmpty
    (c.unfiltered.resolve_participant.trans rfl) anySpeaker
  refine ⟨build c.unfiltered.resolve speaker', ?_, ?_⟩
  · rw [ofConfig, hspeaker']
    rfl
  · exact (c.narrowerThan_unfiltered.resolve.build (Or.inl hall)).results_sublist

/-- Two configurations each of which is narrower than the other one have the same
results. -/
theorem ofConfig_results_eq (h : c.NarrowerThan c') (h' : c'.NarrowerThan c)
    (hparticipant : c.participant = c'.participant) (anySpeaker : Bool) :
    (ofConfig c anySpeaker).map results = (ofConfig c' anySpeaker).map results := by
  rw [ofConfig, ofConfig, speakerOf_resolve_congr hparticipant anySpeaker]
  cases speakerOf c'.resolve anySpeaker with
  | error e => rfl
  | ok speaker =>
    exact congrArg Except.ok ((h.resolve.build (Or.inr rfl)).results_eq
      (h'.resolve.build (Or.inr rfl)))

/-- Filters only leave out results: the results of a configuration are those that it has
without filters, in the same order, with some left out.  A filter that cannot be used
leaves out none: the results are those of the configuration in which it is absent. -/
theorem filters_only_leave_out (c : QueryConfig) (anySpeaker : Bool) :
    (∀ q, ofConfig c anySpeaker = .ok q →
      ∃ q', ofConfig c.unfiltered anySpeaker = .ok q' ∧
        ∀ session recordIndex record, (q.results session recordIndex record).Sublist
          (q'.results session recordIndex record)) ∧
    (∀ slot p, PatternSpec.IsIdle p →
      (ofConfig (c.withPattern slot p) anySpeaker).map results =
        (ofConfig (c.withPattern slot {}) anySpeaker).map results) ∧
    (∀ slot f, TierFilterConfig.IsIdle f →
      (ofConfig (c.withTier slot f) anySpeaker).map results =
        (ofConfig (c.withTier slot {}) anySpeaker).map results) := by
  refine ⟨fun q h => results_sublist_unfiltered h, ?_, ?_⟩
  · intro slot p hp
    refine ofConfig_results_eq (c.withPattern_narrowerThan slot p QueryConfig.isIdle_absent)
      (c.withPattern_narrowerThan slot {} hp) ?_ anySpeaker
    cases slot <;> rfl
  · intro slot f hf
    refine ofConfig_results_eq (c.withTier_narrowerThan slot f (Or.inl QueryConfig.isIdle_absent))
      (c.withTier_narrowerThan slot {} hf) ?_ anySpeaker
    cases slot <;> rfl

/-- A search for vowels in words that are not the last ones, with a filter whose pattern
cannot be read. -/
def filteredVowels : QueryConfig :=
  { vowelConfig with
    words := { final := false }
    tierFilter := { expression := ['*'], dialect := .stress } }

/-- One of the two vowels is left out, by the position of its word; the pattern that
cannot be read leaves out none. -/
theorem filteredVowels_left_out :
    ∃ q, ofConfig filteredVowels true = .ok q ∧
      ∃ q', ofConfig filteredVowels.unfiltered true = .ok q' ∧
        (q.results ⟨[], none, [], [vowelRecord]⟩ 0 vowelRecord).Sublist
          (q'.results ⟨[], none, [], [vowelRecord]⟩ 0 vowelRecord) ∧
        (q.results ⟨[], none, [], [vowelRecord]⟩ 0 vowelRecord).length = 1 ∧
        (q'.results ⟨[], none, [], [vowelRecord]⟩ 0 vowelRecord).length = 2 ∧
        (ofConfig filteredVowels true).map results =
          (ofConfig (filteredVowels.withPattern .tierFilter {}) true).map results ∧
        (ofConfig (filteredVowels.withTier .alignedWord { tier := [' '] }) true).map results =
          (ofConfig (filteredVowels.withTier .alignedWord {}) true).map results := by
  obtain ⟨hsublist, hpattern, htier⟩ := filters_only_leave_out filteredVowels true
  obtain ⟨q', hq', hsublist⟩ := hsublist _ rfl
  have hfault : PatternSpec.IsIdle filteredVowels.tierFilter := Or.inr ⟨_, rfl⟩
  have hblank : TierFilterConfig.IsIdle { tier := [' '] } := Or.inr (Or.inl (by decide))
  refine ⟨_, rfl, q', hq', hsublist _ 0 vowelRecord, by decide +kernel, ?_,
    hpattern .tierFilter _ hfault, htier .alignedWord _ hblank⟩
  obtain rfl := Except.ok.inj hq'
  decide +kernel

end Query

end PhoneticSearch
