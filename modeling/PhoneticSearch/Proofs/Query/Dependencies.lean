import PhoneticSearch.Proofs.Query.Filtering

/-!
# Options that others disable

Some options have no effect for what others ask for: those of words where words are not
searched, those of syllables where syllables are not, case in a dialect without case, and a
filter of a tier without a name.  `QueryConfig.Agree` says of two configurations that they
differ in such options only.

Some of these options are cleared when a configuration is resolved, and clearing them again
changes nothing (`QueryConfig.resolve_resolve`).  The others stay, but are not looked at when
the candidates of a group are selected (`Query.candidates_withFilters`).  So configurations
that agree have the same results (`Query.disabled_options_without_effect`).
-/

namespace PhoneticSearch

/-! ### Configurations that agree -/

/-- Two patterns that differ in case only, if their dialect has no case. -/
structure PatternSpec.Agree (p p' : PatternSpec) : Prop where
  expression : p.expression = p'.expression
  dialect : p.dialect = p'.dialect
  exact : p.exact = p'.exact
  caseSensitive : p.dialect.supportsCase = true → p.caseSensitive = p'.caseSensitive

theorem PatternSpec.Agree.symm {p p' : PatternSpec} (h : p.Agree p') : p'.Agree p :=
  ⟨h.expression.symm, h.dialect.symm, h.exact.symm,
    fun hcase => (h.caseSensitive (h.dialect ▸ hcase)).symm⟩

theorem PatternSpec.Agree.resolveCase {p p' : PatternSpec} (h : p.Agree p') :
    QueryConfig.resolveCase p = QueryConfig.resolveCase p' := by
  obtain ⟨expression, dialect, caseSensitive, exact⟩ := p
  obtain ⟨expression', dialect', caseSensitive', exact'⟩ := p'
  obtain ⟨rfl, rfl, rfl, hcase⟩ := h
  dsimp only at hcase
  unfold QueryConfig.resolveCase
  cases hsupports : dialect.supportsCase with
  | true => rw [hcase hsupports]
  | false => simp only [Bool.and_false]

/-- Two filters of one tier that agree, unless the name of the tier is blank. -/
structure TierFilterConfig.Agree (f f' : TierFilterConfig) : Prop where
  tier : f.tier = f'.tier
  enabled : Text.trim f.tier ≠ [] → f.enabled = f'.enabled
  pattern : Text.trim f.tier ≠ [] → f.pattern.Agree f'.pattern

theorem TierFilterConfig.Agree.symm {f f' : TierFilterConfig} (h : f.Agree f') : f'.Agree f :=
  ⟨h.tier.symm, fun hname => (h.enabled (h.tier ▸ hname)).symm,
    fun hname => (h.pattern (h.tier ▸ hname)).symm⟩

/-- Filters that agree are both switched off or resolved alike. -/
theorem TierFilterConfig.Agree.resolve {f f' : TierFilterConfig} (h : f.Agree f') :
    (QueryConfig.resolveTierCase (QueryConfig.resolveTierFilter f')).IsIdle ∨
      QueryConfig.resolveTierCase (QueryConfig.resolveTierFilter f) =
        QueryConfig.resolveTierCase (QueryConfig.resolveTierFilter f') := by
  by_cases hname : Text.trim f'.tier = []
  · exact Or.inl (IsIdle.resolve (Or.inr (Or.inl hname)))
  · have hname' : Text.trim f.tier ≠ [] := h.tier ▸ hname
    refine Or.inr ?_
    rw [QueryConfig.resolveTierFilter, QueryConfig.resolveTierFilter,
      if_neg (by simpa using hname'), if_neg (by simpa using hname), QueryConfig.resolveTierCase,
      QueryConfig.resolveTierCase, (h.pattern hname').resolveCase, h.enabled hname', h.tier]

namespace QueryConfig

/-- Two configurations that differ at most in options for words, unless `words` holds, in
options for syllables, unless `syllables` does, and in options of patterns and filters
without effect.  The number of workers is left open. -/
structure AgreeWhere (words syllables : Prop) (c c' : QueryConfig) : Prop where
  searchTier : c.searchTier = c'.searchTier
  searchBy : c.searchBy = c'.searchBy
  syllablesInWords : c.syllablesInWords = c'.syllablesInWords
  includeAligned : c.includeAligned = c'.includeAligned
  groups : c.groups = c'.groups
  participant : c.participant = c'.participant
  groupTiers : c.groupTiers = c'.groupTiers
  scores : c.scores = c'.scores
  primary : c.primary.Agree c'.primary
  targetResult : c.targetResult.Agree c'.targetResult
  actualResult : c.actualResult.Agree c'.actualResult
  tierFilter : c.tierFilter.Agree c'.tierFilter
  alignedGroup : c.alignedGroup.Agree c'.alignedGroup
  wordFlags : words → c.words = c'.words
  wordPattern : words → c.wordPattern.Agree c'.wordPattern
  alignedWord : words → c.alignedWord.Agree c'.alignedWord
  wordTiers : words → c.wordTiers = c'.wordTiers
  syllableFlags : syllables → c.syllables = c'.syllables

/-- Two configurations that differ only in options that others disable. -/
def Agree (c c' : QueryConfig) : Prop :=
  AgreeWhere (c.resolve.searchesWords = true) (c.resolve.searchBy = .syllable) c c'

/-- Where words are not searched, what would be asked of them is cleared. -/
theorem resolveWords_cleared {c : QueryConfig} (h : ¬c.searchesWords = true) :
    c.resolveWords.alignedWord.enabled = false ∧ c.resolveWords.wordPattern.expression = [] ∧
      c.resolveWords.wordTiers = [] := by
  rw [resolveWords, if_neg h]
  exact ⟨rfl, rfl, rfl⟩

namespace AgreeWhere

variable {words syllables : Prop} {c c' : QueryConfig}

theorem symm (h : AgreeWhere words syllables c c') : AgreeWhere words syllables c' c :=
  { searchTier := h.searchTier.symm
    searchBy := h.searchBy.symm
    syllablesInWords := h.syllablesInWords.symm
    includeAligned := h.includeAligned.symm
    groups := h.groups.symm
    participant := h.participant.symm
    groupTiers := h.groupTiers.symm
    scores := h.scores.symm
    primary := h.primary.symm
    targetResult := h.targetResult.symm
    actualResult := h.actualResult.symm
    tierFilter := h.tierFilter.symm
    alignedGroup := h.alignedGroup.symm
    wordFlags := fun hw => (h.wordFlags hw).symm
    wordPattern := fun hw => (h.wordPattern hw).symm
    alignedWord := fun hw => (h.alignedWord hw).symm
    wordTiers := fun hw => (h.wordTiers hw).symm
    syllableFlags := fun hs => (h.syllableFlags hs).symm }

theorem resolveSearchBy (h : AgreeWhere words syllables c c') :
    AgreeWhere words syllables c.resolveSearchBy c'.resolveSearchBy := by
  rcases resolveSearchBy_cases h.searchTier h.searchBy with ⟨hc, hc'⟩ | ⟨hc, hc'⟩
  · rw [hc, hc']
    exact { h with searchBy := rfl }
  · rw [hc, hc']
    exact h

theorem searchesWords (h : AgreeWhere words syllables c c') :
    c.searchesWords = c'.searchesWords := by
  rw [QueryConfig.searchesWords, QueryConfig.searchesWords, h.searchBy, h.syllablesInWords]

theorem resolveWords (h : AgreeWhere words syllables c c') :
    AgreeWhere words syllables c.resolveWords c'.resolveWords := by
  unfold QueryConfig.resolveWords
  rw [← h.searchesWords]
  split
  · exact h
  · exact { h with
      wordPattern := fun hw => { h.wordPattern hw with expression := rfl }
      alignedWord := fun hw => { h.alignedWord hw with enabled := fun _ => rfl }
      wordTiers := fun _ => rfl }

/-- With the flags of the other one, a configuration is narrower than it once the patterns
of both have been resolved, if its options for words are. -/
theorem resolvePatterns (h : AgreeWhere words syllables c c')
    (hpattern : c'.wordPattern.IsIdle ∨ c.wordPattern.Agree c'.wordPattern)
    (htier : c'.alignedWord.IsIdle ∨ c.alignedWord.Agree c'.alignedWord)
    (hdata : c.wordTiers = c'.wordTiers) :
    NarrowerThan { c.resolvePatterns with words := c'.words, syllables := c'.syllables }
      c'.resolvePatterns :=
  { searchTier := h.searchTier
    searchBy := h.searchBy
    syllablesInWords := h.syllablesInWords
    includeAligned := h.includeAligned
    primary := h.primary.resolveCase
    groupTiers := h.groupTiers
    wordTiers := hdata
    scores := h.scores
    targetResult := Or.inr h.targetResult.resolveCase
    actualResult := Or.inr h.actualResult.resolveCase
    tierFilter := Or.inr h.tierFilter.resolveCase
    alignedGroup := h.alignedGroup.resolve
    wordPattern := hpattern.imp PatternSpec.IsIdle.resolveCase PatternSpec.Agree.resolveCase
    alignedWord := htier.elim (fun hidle => Or.inl hidle.resolve) TierFilterConfig.Agree.resolve
    groups := Or.inr h.groups
    words := Or.inr rfl
    syllables := Or.inr rfl
    participant := Or.inr h.participant }

theorem narrower (h : AgreeWhere words syllables c c') (hwords : c.searchesWords = true → words) :
    NarrowerThan
      { c.resolveWords.resolvePatterns with
        words := c'.resolveWords.words, syllables := c'.resolveWords.syllables }
      c'.resolveWords.resolvePatterns := by
  by_cases hsearch : c.searchesWords = true
  · have hw := hwords hsearch
    exact h.resolveWords.resolvePatterns (Or.inr (h.resolveWords.wordPattern hw))
      (Or.inr (h.resolveWords.alignedWord hw)) (h.resolveWords.wordTiers hw)
  · -- Neither configuration asks anything of words.
    obtain ⟨-, -, hdata⟩ := resolveWords_cleared hsearch
    rw [h.searchesWords] at hsearch
    obtain ⟨htier, hpattern, hdata'⟩ := resolveWords_cleared hsearch
    exact h.resolveWords.resolvePatterns (Or.inl (Or.inl hpattern))
      (Or.inl (Or.inr (Or.inr htier))) (hdata.trans hdata'.symm)

end AgreeWhere

/-! ### Resolving twice -/

theorem resolveWords_searchTier (c : QueryConfig) : c.resolveWords.searchTier = c.searchTier := by
  unfold resolveWords
  split <;> rfl

theorem resolveWords_searchBy (c : QueryConfig) : c.resolveWords.searchBy = c.searchBy := by
  unfold resolveWords
  split <;> rfl

theorem resolveWords_searchesWords (c : QueryConfig) :
    c.resolveWords.searchesWords = c.searchesWords := by
  unfold resolveWords
  split <;> rfl

theorem searchesWords_iff (c : QueryConfig) : c.searchesWords = true ↔
    c.searchBy = .word ∨ c.searchBy = .syllable ∧ c.syllablesInWords = true := by
  unfold searchesWords
  cases c.searchBy <;> simp

theorem resolve_searchBy (c : QueryConfig) : c.resolve.searchBy = c.resolveSearchBy.searchBy :=
  c.resolveSearchBy.resolveWords_searchBy

theorem resolve_searchesWords (c : QueryConfig) :
    c.resolve.searchesWords = c.resolveSearchBy.searchesWords :=
  c.resolveSearchBy.resolveWords_searchesWords

/-- Once resolved, only transcriptions are searched by syllable. -/
theorem resolveSearchBy_searchBy (c : QueryConfig) :
    ¬(c.resolveSearchBy.searchBy = .syllable ∧ c.resolveSearchBy.searchTier.side? = none) := by
  unfold resolveSearchBy
  split
  · exact fun h => SearchBy.noConfusion h.1
  · assumption

theorem resolveCase_resolveCase (p : PatternSpec) : resolveCase (resolveCase p) = resolveCase p := by
  simp only [resolveCase, Bool.and_assoc, Bool.and_self]

theorem resolveTierFilter_enabled {f : TierFilterConfig} (h : f.enabled = false) :
    (resolveTierFilter f).enabled = false := by
  unfold resolveTierFilter
  split
  · rfl
  · exact h

theorem resolveTier_resolveTier (f : TierFilterConfig) :
    resolveTierCase (resolveTierFilter (resolveTierCase (resolveTierFilter f))) =
      resolveTierCase (resolveTierFilter f) := by
  unfold resolveTierFilter
  by_cases hname : (Text.trim f.tier).isEmpty = true
  · simp only [if_pos hname, resolveTierCase, resolveCase_resolveCase]
  · simp only [if_neg hname, resolveTierCase, resolveCase_resolveCase]

theorem resolvePatterns_resolvePatterns (c : QueryConfig) :
    c.resolvePatterns.resolvePatterns = c.resolvePatterns := by
  simp only [resolvePatterns, resolveCase_resolveCase, resolveTier_resolveTier]

/-- Options for words that have been cleared stay as they are. -/
theorem resolveWords_of_cleared {c : QueryConfig} (htier : c.alignedWord.enabled = false)
    (hpattern : c.wordPattern.expression = []) (hdata : c.wordTiers = []) :
    c.resolveWords = c := by
  have halignedWord : { c.alignedWord with enabled := false } = c.alignedWord := by rw [← htier]
  have hwordPattern : { c.wordPattern with expression := [] } = c.wordPattern := by rw [← hpattern]
  rw [resolveWords, halignedWord, hwordPattern, ← hdata, ite_self]

theorem resolveWords_resolve (c : QueryConfig) : c.resolve.resolveWords = c.resolve := by
  by_cases hwords : c.resolve.searchesWords = true
  · exact if_pos hwords
  · rw [resolve_searchesWords] at hwords
    obtain ⟨htier, hpattern, hdata⟩ := resolveWords_cleared hwords
    exact resolveWords_of_cleared (resolveTierFilter_enabled htier) hpattern hdata

/-- Resolving a resolved configuration changes nothing. -/
theorem resolve_resolve (c : QueryConfig) : c.resolve.resolve = c.resolve := by
  have hsearchTier : c.resolve.searchTier = c.resolveSearchBy.searchTier :=
    c.resolveSearchBy.resolveWords_searchTier
  have hsearchBy : c.resolve.resolveSearchBy = c.resolve := by
    refine if_neg ?_
    rw [resolve_searchBy, hsearchTier]
    exact c.resolveSearchBy_searchBy
  calc c.resolve.resolve
      = c.resolve.resolveSearchBy.resolveWords.resolvePatterns := rfl
    _ = c.resolve.resolvePatterns := by rw [hsearchBy, resolveWords_resolve]
    _ = c.resolve := c.resolveSearchBy.resolveWords.resolvePatterns_resolvePatterns

/-- What the options of one of two configurations that agree disable, those of the other
one disable too. -/
theorem Agree.symm {c c' : QueryConfig} (h : c.Agree c') : c'.Agree c := by
  have hresolved := AgreeWhere.resolveSearchBy h
  rw [Agree, resolve_searchesWords, resolve_searchBy, ← hresolved.searchesWords,
    ← hresolved.searchBy, ← resolve_searchesWords, ← resolve_searchBy]
  exact AgreeWhere.symm h

end QueryConfig

/-! ### Filters that are not looked at -/

namespace Query

/-- The filter of words matters only where words are searched, and that of syllables only
where syllables are. -/
theorem candidates_withFilters (q : Query) (words : WordFilter) (syllables : SyllableFilter)
    (hwords : q.searchBy = .word ∨ q.searchBy = .syllable ∧ q.syllablesInWords = true →
      words = q.words)
    (hsyllables : q.searchBy = .syllable → syllables = q.syllables) (g : GroupView) :
    candidates { q with words := words, syllables := syllables } g = q.candidates g := by
  unfold candidates
  cases hsearch : q.searchBy with
  | group => rfl
  | word =>
    rw [hwords (Or.inl hsearch)]
    rfl
  | syllable =>
    rw [hsyllables hsearch]
    cases hin : q.syllablesInWords with
    | true =>
      rw [hwords (Or.inr ⟨hsearch, hin⟩)]
      rfl
    | false => rfl

theorem results_withFilters (q : Query) (words : WordFilter) (syllables : SyllableFilter)
    (hwords : q.searchBy = .word ∨ q.searchBy = .syllable ∧ q.syllablesInWords = true →
      words = q.words)
    (hsyllables : q.searchBy = .syllable → syllables = q.syllables) :
    results { q with words := words, syllables := syllables } = q.results := by
  funext session recordIndex record
  have hgroup : ∀ g,
      groupResults { q with words := words, syllables := syllables } session recordIndex record g =
        q.groupResults session recordIndex record g := by
    intro g
    unfold groupResults
    rw [candidates_withFilters q words syllables hwords hsyllables g]
    rfl
  unfold results
  simp only [hgroup]
  rfl

/-! ### Options without effect -/

theorem results_sublist_of_agree {c c' : QueryConfig} (h : c.Agree c') (speaker : SpeakerFilter)
    (session : Session) (recordIndex : Nat) (record : Record) :
    ((build c.resolve speaker).results session recordIndex record).Sublist
      ((build c'.resolve speaker).results session recordIndex record) := by
  have hresolved := QueryConfig.AgreeWhere.resolveSearchBy h
  have hnarrower := hresolved.narrower (c.resolve_searchesWords.trans ·)
  -- The flags of the one query are those of the other one, or not looked at.
  let q := build c.resolve speaker
  have hflags : results { q with
      words := { q.words with flags := c'.resolve.words }
      syllables := { q.syllables with flags := c'.resolve.syllables } } = q.results := by
    refine results_withFilters q _ _ ?_ ?_
    · intro hsearch
      have hwords : c.resolve.words = c'.resolve.words :=
        hresolved.resolveWords.wordFlags (c.resolve.searchesWords_iff.mpr hsearch)
      rw [← hwords]
      rfl
    · intro hsearch
      have hsyllables : c.resolve.syllables = c'.resolve.syllables :=
        hresolved.resolveWords.syllableFlags hsearch
      rw [← hsyllables]
      rfl
  rw [← hflags]
  exact (hnarrower.build (Or.inr rfl)).results_sublist session recordIndex record

/-- Options that others disable have no effect: resolving a configuration again changes
nothing, and configurations that differ in such options only are refused alike, and have
the same results for every record. -/
theorem disabled_options_without_effect (c : QueryConfig) :
    c.resolve.resolve = c.resolve ∧
    ∀ c', c.Agree c' → ∀ anySpeaker,
      (ofConfig c anySpeaker).map results = (ofConfig c' anySpeaker).map results := by
  refine ⟨c.resolve_resolve, ?_⟩
  intro c' h anySpeaker
  rw [ofConfig, ofConfig, speakerOf_resolve_congr h.participant anySpeaker]
  cases speakerOf c'.resolve anySpeaker with
  | error e => rfl
  | ok speaker =>
    refine congrArg Except.ok ?_
    funext session recordIndex record
    exact (results_sublist_of_agree h speaker session recordIndex record).antisymm
      (results_sublist_of_agree h.symm speaker session recordIndex record)

/-- A search for the vowels of each group. -/
def groupVowels : QueryConfig := { primary := { expression := ['V'], dialect := .soundClass } }

/-- The same search, with options for words and syllables, case where there is none, and a
filter of a tier without a name. -/
def groupVowelsWithOptions : QueryConfig :=
  { groupVowels with
    primary := { groupVowels.primary with caseSensitive := true }
    alignedGroup := { enabled := false, pattern := { expression := ['x'] } }
    words := { initial := false, medial := false, final := false }
    wordPattern := { expression := ['x'], caseSensitive := true }
    alignedWord := { tier := "Notes".toList, pattern := { expression := ['x'] } }
    wordTiers := "Notes".toList
    syllables := { stress := { unstressed := false } } }

/-- The filters that are built differ, but two vowels are found with either. -/
theorem groupVowels_options :
    ∃ q, ofConfig groupVowels true = .ok q ∧
      ∃ q', ofConfig groupVowelsWithOptions true = .ok q' ∧
        q.words.flags ≠ q'.words.flags ∧ q.syllables.flags ≠ q'.syllables.flags ∧
        q.results = q'.results ∧
        (q.results ⟨[], none, [], [vowelRecord]⟩ 0 vowelRecord).length = 2 := by
  have hagree : groupVowels.Agree groupVowelsWithOptions :=
    { searchTier := rfl, searchBy := rfl, syllablesInWords := rfl, includeAligned := rfl
      groups := rfl, participant := rfl, groupTiers := rfl, scores := rfl
      primary := ⟨rfl, rfl, rfl, nofun⟩
      targetResult := ⟨rfl, rfl, rfl, nofun⟩
      actualResult := ⟨rfl, rfl, rfl, nofun⟩
      tierFilter := ⟨rfl, rfl, rfl, fun _ => rfl⟩
      alignedGroup := ⟨rfl, fun hname => absurd rfl hname, fun hname => absurd rfl hname⟩
      wordFlags := nofun, wordPattern := nofun, alignedWord := nofun, wordTiers := nofun
      syllableFlags := nofun }
  have hresults := (disabled_options_without_effect groupVowels).2 _ hagree true
  exact ⟨_, rfl, _, rfl, by decide, by decide, Except.ok.inj hresults, by decide +kernel⟩

end Query

end PhoneticSearch
