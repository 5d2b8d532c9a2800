import PhoneticSearch.Proofs.Corpus.Exchange
import PhoneticSearch.Proofs.Query.Filtering

/-!
# Queries with the sides exchanged

A query may be asked of the other transcription, with everything it says about one side said
about the other one (`QueryConfig.exchanged`).  On a record whose transcriptions are exchanged
it has the results that it had before, under the names of the other tiers.

Each step of a query commutes with the exchange: what is searched (`candidates_exchanged`),
what is aligned with a hit (`PlacedHit.aligned?_exchanged`), whether its two sides are accepted
(`acceptsSides_exchanged`) and what its result is (`result_exchanged`).  The results of a record
follow (`results_exchanged`), and so do those of a configuration, whose dependent options are
cleared alike (`QueryConfig.resolve_exchanged`).
-/

namespace PhoneticSearch

/-! ### Names of tiers -/

namespace TierName

/-- The name of the tier of the other transcription; other names are their own. -/
def exchangedName (t : Text) : Text :=
  match read t with
  | ipa side => (ipa side.other).text
  | _ => t

theorem exchangedName_text (side : Side) :
    exchangedName (ipa side).text = (ipa side.other).text := by
  cases side <;> decide +kernel

theorem trim_of_read_eq_ipa {t : Text} {side : Side} (h : read t = ipa side) :
    Text.trim t = (ipa side).text := by
  rw [← text_read, h]

theorem read_exchangedName (t : Text) : read (exchangedName t) = (read t).exchanged := by
  cases h : read t with
  | ipa side =>
    -- Only the name itself is left; white space around it is gone.
    have hname : exchangedName t = (ipa side.other).text := by rw [exchangedName, h]
    rw [hname]
    cases side <;> decide +kernel
  | orthography | notes | user _ =>
    have hname : exchangedName t = t := by rw [exchangedName, h]
    rw [hname, h]
    rfl

/-- The exchange leaves no name blank and makes none so. -/
theorem isEmpty_trim_exchangedName (t : Text) :
    (Text.trim (exchangedName t)).isEmpty = (Text.trim t).isEmpty := by
  cases h : read t with
  | ipa side =>
    have hname : exchangedName t = (ipa side.other).text := by rw [exchangedName, h]
    rw [hname, trim_of_read_eq_ipa h]
    cases side <;> decide +kernel
  | orthography | notes | user _ =>
    have hname : exchangedName t = t := by rw [exchangedName, h]
    rw [hname]

end TierName

/-! ### Filters -/

theorem PositionFlags.select_map {α β : Type} (flags : PositionFlags) (f : α → β)
    (items : List α) :
    flags.select (items.map f) = (flags.select items).map fun x => (x.1, x.2.1, f x.2.2) := by
  simp only [select, List.zipIdx_map, List.map_map, List.length_map, List.filter_map]
  rfl

theorem GroupFilter.select_exchanged (f : GroupFilter) (r : Record) :
    f.select r.exchanged = (f.select r).map fun x => (x.1, x.2.1, x.2.2.exchanged) := by
  rw [select, r.groupViews_exchanged, PositionFlags.select_map]
  rfl

theorem Scope.syllables_exchanged (s : Scope) (side : Side) :
    s.exchanged.syllables side.other = (s.syllables side).map SyllableView.exchanged := by
  rw [syllables, syllables, elementSpan?_exchanged, inGroup_exchanged,
    Group.transcription_other_exchanged]
  cases s.elementSpan? side with
  | none => rfl
  | some span =>
    dsimp only
    rw [List.map_map]
    rfl

theorem SyllableFilter.select_exchanged (f : SyllableFilter) (s : Scope) (side : Side) :
    f.select s.exchanged side.other = (f.select s side).map SyllableView.exchanged := by
  rw [select, s.syllables_exchanged, List.filter_map]
  rfl

theorem PatternFilter.accepts_exchanged (f : PatternFilter) (tier : TierName) (o : SearchObject) :
    f.accepts tier.exchanged o.exchanged = f.accepts tier o := by
  rw [accepts, o.tierValue_exchanged]
  rfl

/-- A filter of the exchanged tier. -/
def TierFilterConfig.exchanged (f : TierFilterConfig) : TierFilterConfig :=
  { f with tier := TierName.exchangedName f.tier }

namespace TierFilter

/-- A filter of the exchanged tier. -/
def exchanged (f : TierFilter) : TierFilter := { f with tier := f.tier.map TierName.exchanged }

theorem inUse_exchanged (f : TierFilter) : f.exchanged.inUse = f.inUse := by
  simp [inUse, exchanged]

theorem check_exchanged (f : TierFilter) (o : SearchObject) :
    f.exchanged.check o.exchanged = f.check o := by
  obtain ⟨_, tier, pattern, _⟩ := f
  cases tier with
  | none => rfl
  | some tier => exact pattern.accepts_exchanged tier o

theorem ofConfig_exchanged (id : Text) (config : TierFilterConfig) :
    ofConfig id config.exchanged = (ofConfig id config).exchanged := by
  have htier : (if (Text.trim config.exchanged.tier).isEmpty then none
      else some (TierName.read config.exchanged.tier)) =
      (if (Text.trim config.tier).isEmpty then none
        else some (TierName.read config.tier)).map TierName.exchanged := by
    rw [TierFilterConfig.exchanged, TierName.isEmpty_trim_exchangedName,
      TierName.read_exchangedName]
    split <;> rfl
  rw [ofConfig, htier]
  rfl

end TierFilter

/-! ### Hits -/

/-- A hit on the exchanged tier. -/
def PlacedHit.exchanged (p : PlacedHit) : PlacedHit :=
  ⟨p.group.exchanged, p.groupIndex, p.tier.exchanged, p.hit⟩

/-- The phones that are aligned with a hit, found on the other side. -/
def AlignedHit.exchanged (aligned : AlignedHit) : AlignedHit :=
  { aligned with side := aligned.side.other }

/-- A value of a result under the name of the exchanged tier. -/
def ResultValue.exchanged (v : ResultValue) : ResultValue :=
  { v with tier := v.tier.exchanged, name := TierName.exchangedName v.name }

/-- A result with its values under the names of the exchanged tiers. -/
def QueryResult.exchanged (r : QueryResult) : QueryResult :=
  { r with values := r.values.map ResultValue.exchanged }

theorem ResultValue.ofTier_exchanged (side : Side) (groupIndex : Nat) (span : Span) (data : Text) :
    ofTier (.ipa side.other) groupIndex span data =
      (ofTier (.ipa side) groupIndex span data).exchanged := by
  rw [ofTier, ← TierName.exchangedName_text]
  rfl

theorem Hit.isInTranscription_exchanged (hit : Hit) (tier : TierName) :
    hit.isInTranscription tier.exchanged = hit.isInTranscription tier := by
  simp [isInTranscription]

theorem SearchObject.place_exchanged (o : SearchObject) (tier : TierName) (hit : Hit) :
    o.exchanged.place tier.exchanged hit = (o.place tier hit).exchanged := by
  have hoffset : o.exchanged.hitOffset tier.exchanged hit = o.hitOffset tier hit := by
    rw [hitOffset, hitOffset, hit.isInTranscription_exchanged, o.elementOffset_exchanged,
      o.tierOffset_exchanged]
  rw [place, hoffset, o.group_exchanged, o.groupIndex_exchanged]
  rfl

namespace PlacedHit

variable {p : PlacedHit} {side : Side}

theorem elements?_exchanged (p : PlacedHit) : p.exchanged.elements? = p.elements? := by
  simp [elements?, exchanged, Hit.isInTranscription_exchanged]

theorem bytes_exchanged (p : PlacedHit) : p.exchanged.bytes = p.bytes := by
  have hside : p.exchanged.tier.side? = p.tier.side?.map Side.other := p.tier.side?_exchanged
  rw [bytes, bytes, elements?_exchanged, hside]
  cases p.elements? with
  | none => rfl
  | some elements =>
    cases p.tier.side? with
    | none => rfl
    | some side =>
      exact congrArg (Transcription.byteSpan · elements)
        (p.group.transcription_other_exchanged side)

theorem result_exchanged (htier : p.tier = .ipa side) :
    p.exchanged.result = p.result.exchanged := by
  have hexchanged : p.exchanged.tier = .ipa side.other := by rw [exchanged, htier]; rfl
  rw [result, result, bytes_exchanged, hexchanged, htier]
  exact ResultValue.ofTier_exchanged side _ _ _

/-- What is aligned with a hit is found on the other side, with the same phones. -/
theorem aligned?_exchanged (p : PlacedHit) :
    p.exchanged.aligned? = p.aligned?.map AlignedHit.exchanged := by
  obtain ⟨group, groupIndex, tier, hit⟩ := p
  rw [aligned?, aligned?, elements?_exchanged]
  cases tier with
  | ipa side =>
    have hproject : ∀ s, group.exchanged.alignment.project side.other s =
        group.alignment.project side s := group.alignment.project_exchanged side
    simp only [exchanged, TierName.exchanged, TierName.side?, Option.bind_eq_bind, Option.bind_some,
      hproject, Option.map_bind, Function.comp_def, Option.pure_def, Option.map_some,
      Group.transcription_other_exchanged, AlignedHit.exchanged]
  | orthography | notes | user _ => rfl

theorem alignedResult_exchanged (p : PlacedHit) (aligned : AlignedHit) :
    p.exchanged.alignedResult aligned.exchanged = (p.alignedResult aligned).exchanged := by
  rw [alignedResult, alignedResult, ← ResultValue.ofTier_exchanged]
  simp [exchanged, AlignedHit.exchanged]

end PlacedHit

/-! ### The steps of a query -/

/-- A candidate in the exchanged record. -/
def Candidate.exchanged (c : Candidate) : Candidate := { c with object := c.object.exchanged }

theorem TierSelection.data_of_nil {s : TierSelection} (h : s.tiers = []) (record : Record)
    (label : Text) (o : SearchObject) : s.data record label o = {} := by
  rw [data, h]
  split <;> rfl

theorem ScoreOptions.classes_of_not_isEnabled {o : ScoreOptions} (h : o.isEnabled = false) :
    o.classes = [] := by
  obtain ⟨hconsonants, hvowels⟩ := Bool.or_eq_false_iff.mp h
  simp [classes, hconsonants, hvowels]

namespace Query

/-- A query for the other transcription, with the filters of the two sides exchanged. -/
def exchanged (q : Query) : Query :=
  { q with
    searchTier := q.searchTier.exchanged
    targetResult := { q.actualResult with id := q.targetResult.id }
    actualResult := { q.targetResult with id := q.actualResult.id }
    alignedGroup := q.alignedGroup.exchanged
    alignedWord := q.alignedWord.exchanged }

/-- Whether a query is for one side, and its results hold the hits only. -/
structure SearchesSide (q : Query) (side : Side) : Prop where
  searchTier : q.searchTier = .ipa side
  groupTiers : q.groupTiers.tiers = []
  wordTiers : q.wordTiers.tiers = []
  scores : q.scores.isEnabled = false

variable {side : Side} (q : Query)

theorem passes_exchanged (pattern : PatternFilter) (tierFilter : TierFilter) (o : SearchObject) :
    q.exchanged.passes pattern tierFilter.exchanged o.exchanged =
      q.passes pattern tierFilter o := by
  rw [passes, passes, tierFilter.inUse_exchanged, tierFilter.check_exchanged]
  exact congrArg (fun b => (!pattern.inUse || b) && _) (pattern.accepts_exchanged q.searchTier o)

theorem acceptsGroup_exchanged (g : GroupView) :
    q.exchanged.acceptsGroup g.exchanged = q.acceptsGroup g :=
  q.passes_exchanged q.tierFilter q.alignedGroup (.scope (.group g))

theorem acceptsWord_exchanged (w : Word) : q.exchanged.acceptsWord w.exchanged = q.acceptsWord w :=
  q.passes_exchanged q.wordPattern q.alignedWord (.scope (.word w))

theorem wordsOf_exchanged (g : GroupView) :
    q.exchanged.wordsOf g.exchanged = (q.wordsOf g).map fun x => (x.1, x.2.exchanged) := by
  have hselect : q.exchanged.words.select g.exchanged.words =
      (q.words.select g.words).map fun x => (x.1, x.2.1, x.2.2.exchanged) := by
    rw [g.words_exchanged]
    exact q.words.flags.select_map Word.exchanged g.words
  rw [wordsOf, wordsOf, hselect, List.filterMap_map, List.map_filterMap]
  refine List.filterMap_congr fun x _ => ?_
  obtain ⟨i, p, w⟩ := x
  simp only [Function.comp_def, acceptsWord_exchanged]
  split <;> rfl

theorem syllablesOf_exchanged (scope : Scope) (position : Option Position) :
    q.exchanged.syllablesOf scope.exchanged position =
      (q.syllablesOf scope position).map Candidate.exchanged := by
  have hside : q.exchanged.searchTier.side? = q.searchTier.side?.map Side.other :=
    q.searchTier.side?_exchanged
  rw [syllablesOf, syllablesOf, hside]
  cases q.searchTier.side? with
  | none => rfl
  | some side =>
    have hselect : q.exchanged.syllables.select scope.exchanged side.other =
        (q.syllables.select scope side).map SyllableView.exchanged :=
      q.syllables.select_exchanged scope side
    rw [Option.map_some]
    dsimp only
    rw [hselect, List.map_map, List.map_map]
    rfl

/-- What is searched in the exchanged group is what is searched in the group. -/
theorem candidates_exchanged (g : GroupView) :
    q.exchanged.candidates g.exchanged = (q.candidates g).map Candidate.exchanged := by
  have hby : q.exchanged.searchBy = q.searchBy := rfl
  have hwords : q.exchanged.syllablesInWords = q.syllablesInWords := rfl
  rw [candidates, candidates, hby]
  cases q.searchBy with
  | group => rfl
  | word =>
    dsimp only
    rw [wordsOf_exchanged, List.map_map, List.map_map]
    rfl
  | syllable =>
    dsimp only
    rw [hwords]
    split
    · rw [wordsOf_exchanged, List.flatMap_map, List.map_flatMap]
      exact List.flatMap_congr fun x _ => q.syllablesOf_exchanged (.word x.2) (some x.1)
    · exact q.syllablesOf_exchanged (.group g) none

/-- The two sides of a hit are accepted if they were before the exchange. -/
theorem acceptsSides_exchanged (hit : Hit) (aligned : Option AlignedHit) :
    q.exchanged.acceptsSides hit (aligned.map AlignedHit.exchanged) =
      q.acceptsSides hit aligned := by
  have hside : q.exchanged.searchTier.side? = q.searchTier.side?.map Side.other :=
    q.searchTier.side?_exchanged
  have hvalue : (aligned.map AlignedHit.exchanged).elim [] (·.value) =
      aligned.elim [] (·.value) := by
    cases aligned <;> rfl
  rw [acceptsSides, acceptsSides, hside, hvalue]
  cases q.searchTier.side? with
  | none => rfl
  | some side =>
    -- The two filters are asked in the other order.
    cases side <;> exact Bool.and_comm _ _

theorem positionMetadata_exchanged (c : Candidate) :
    positionMetadata c.exchanged = positionMetadata c := by
  obtain ⟨object, position⟩ := c
  cases object <;> rfl

variable {q} {session : Session} {recordIndex : Nat} {record : Record} {g : GroupView}

namespace SearchesSide

theorem wordData (h : q.SearchesSide side) (record : Record) (c : Candidate) :
    q.wordData record c = {} := by
  rw [Query.wordData]
  cases c.object.word? with
  | none => rfl
  | some w => exact TierSelection.data_of_nil h.wordTiers record _ _

theorem scoreMetadata (h : q.SearchesSide side) (g : Group) : q.scoreMetadata g = [] := by
  rw [Query.scoreMetadata, ScoreOptions.alignedMetadata, ScoreOptions.standardMetadata,
    ScoreOptions.classes_of_not_isEnabled h.scores]
  rfl

theorem exchanged (h : q.SearchesSide side) : q.exchanged.SearchesSide side.other where
  searchTier := congrArg TierName.exchanged h.searchTier
  groupTiers := h.groupTiers
  wordTiers := h.wordTiers
  scores := h.scores

/-- The result of a hit on the exchanged tier is the exchanged result of the hit. -/
theorem result_exchanged (h : q.SearchesSide side) (c : Candidate) (hit : Hit) :
    q.exchanged.result session recordIndex record.exchanged g.exchanged {} c.exchanged hit =
      (q.result session recordIndex record g {} c hit).map QueryResult.exchanged := by
  have hplace : c.exchanged.object.place q.exchanged.searchTier hit =
      (c.object.place q.searchTier hit).exchanged := c.object.place_exchanged q.searchTier hit
  have htier : (c.object.place q.searchTier hit).tier = .ipa side := h.searchTier
  have hschema : q.exchanged.schema = q.schema := by
    rw [schema, schema, h.searchTier, h.exchanged.searchTier]
    rfl
  have hvalues : ∀ aligned : Option AlignedHit,
      (aligned.map AlignedHit.exchanged).toList.map
          (c.object.place q.searchTier hit).exchanged.alignedResult =
        (aligned.toList.map (c.object.place q.searchTier hit).alignedResult).map
          ResultValue.exchanged := by
    intro aligned
    cases aligned with
    | none => rfl
    | some aligned => exact congrArg (fun v => [v]) (PlacedHit.alignedResult_exchanged _ aligned)
  have hinclude : q.exchanged.includeAligned = q.includeAligned := rfl
  rw [result, result, hplace, PlacedHit.aligned?_exchanged, acceptsSides_exchanged]
  split
  · -- Without data of the word and scores, the hit and what is aligned with it are all there is.
    simp only [h.wordData, h.exchanged.wordData, h.scoreMetadata, h.exchanged.scoreMetadata,
      positionMetadata_exchanged, hschema, hvalues, hinclude, PlacedHit.result_exchanged htier,
      Option.map_some, QueryResult.exchanged]
    cases q.includeAligned <;> simp
  · rfl

theorem candidateResults_exchanged (h : q.SearchesSide side) (c : Candidate) :
    q.exchanged.candidateResults session recordIndex record.exchanged g.exchanged {} c.exchanged =
      (q.candidateResults session recordIndex record g {} c).map QueryResult.exchanged := by
  have hvalue : c.exchanged.object.tierValue q.exchanged.searchTier =
      c.object.tierValue q.searchTier := c.object.tierValue_exchanged q.searchTier
  rw [candidateResults, candidateResults, hvalue]
  cases c.object.tierValue q.searchTier with
  | none => rfl
  | some v =>
    dsimp only
    rw [List.map_filterMap]
    exact List.filterMap_congr fun hit _ => h.result_exchanged c hit

theorem groupResults_exchanged (h : q.SearchesSide side) (g : GroupView) :
    q.exchanged.groupResults session recordIndex record.exchanged g.exchanged =
      (q.groupResults session recordIndex record g).map QueryResult.exchanged := by
  rw [groupResults, groupResults, q.acceptsGroup_exchanged]
  split
  · dsimp only
    rw [TierSelection.data_of_nil h.groupTiers, TierSelection.data_of_nil h.exchanged.groupTiers,
      candidates_exchanged, List.flatMap_map, List.map_flatMap]
    exact List.flatMap_congr fun c _ => h.candidateResults_exchanged c
  · rfl

/-- The results of the exchanged query in the exchanged record are the exchanged results. -/
theorem results_exchanged (h : q.SearchesSide side) (session : Session) (recordIndex : Nat)
    (record : Record) : q.exchanged.results session recordIndex record.exchanged =
      (q.results session recordIndex record).map QueryResult.exchanged := by
  have haccepts : q.exchanged.acceptsRecord session record.exchanged =
      q.acceptsRecord session record :=
    congrArg ((q.speaker.check record.speaker (record.date.orElse fun _ => session.date) &&
      q.primary.inUse) && ·) (record.hasTier_exchanged q.searchTier)
  rw [results, results, haccepts]
  split
  · have hselect : q.exchanged.groups.select record.exchanged =
        (q.groups.select record).map fun x => (x.1, x.2.1, x.2.2.exchanged) :=
      q.groups.select_exchanged record
    rw [hselect, List.flatMap_map, List.map_flatMap]
    exact List.flatMap_congr fun x _ => h.groupResults_exchanged x.2.2
  · rfl

end SearchesSide

end Query

/-! ### Configurations -/

namespace QueryConfig

/-- A configuration that asks for the other transcription, with what it says about each side
said about the other one. -/
def exchanged (c : QueryConfig) : QueryConfig :=
  { c with
    searchTier := c.searchTier.exchanged
    targetResult := c.actualResult
    actualResult := c.targetResult
    alignedGroup := c.alignedGroup.exchanged
    alignedWord := c.alignedWord.exchanged }

/-- Whether a configuration asks for the hits on one transcription, without the values of other
tiers and without scores. -/
structure SearchesSide (c : QueryConfig) (side : Side) : Prop where
  searchTier : c.searchTier = .ipa side
  groupTiers : c.groupTiers = []
  wordTiers : c.wordTiers = []
  scores : c.scores.isEnabled = false

theorem SearchesSide.resolve {c : QueryConfig} {side : Side} (h : c.SearchesSide side) :
    c.resolve.SearchesSide side := by
  have hsearchBy : c.resolveSearchBy.SearchesSide side := by
    unfold resolveSearchBy
    split
    · exact ⟨h.searchTier, h.groupTiers, h.wordTiers, h.scores⟩
    · exact h
  have hwords : c.resolveSearchBy.resolveWords.SearchesSide side := by
    unfold resolveWords
    split
    · exact hsearchBy
    · exact ⟨hsearchBy.searchTier, hsearchBy.groupTiers, rfl, hsearchBy.scores⟩
  exact ⟨hwords.searchTier, hwords.groupTiers, hwords.wordTiers, hwords.scores⟩

variable (c : QueryConfig)

theorem resolveSearchBy_exchanged : c.exchanged.resolveSearchBy = c.resolveSearchBy.exchanged := by
  have hcond : (c.exchanged.searchBy = .syllable ∧ c.exchanged.searchTier.side? = none) ↔
      (c.searchBy = .syllable ∧ c.searchTier.side? = none) := by
    simp [exchanged]
  rw [resolveSearchBy, resolveSearchBy]
  by_cases h : c.searchBy = .syllable ∧ c.searchTier.side? = none
  · rw [if_pos h, if_pos (hcond.mpr h)]
    rfl
  · rw [if_neg h, if_neg (mt hcond.mp h)]

theorem resolveWords_exchanged : c.exchanged.resolveWords = c.resolveWords.exchanged := by
  have hwords : c.exchanged.searchesWords = c.searchesWords := rfl
  rw [resolveWords, resolveWords, hwords]
  split <;> rfl

theorem resolvePatterns_exchanged :
    c.exchanged.resolvePatterns = c.resolvePatterns.exchanged := by
  have hfilter : ∀ f : TierFilterConfig, resolveTierCase (resolveTierFilter f.exchanged) =
      (resolveTierCase (resolveTierFilter f)).exchanged := by
    intro f
    have hblank : (Text.trim f.exchanged.tier).isEmpty = (Text.trim f.tier).isEmpty :=
      TierName.isEmpty_trim_exchangedName f.tier
    rw [resolveTierFilter, resolveTierFilter, hblank]
    split <;> rfl
  simp only [resolvePatterns, exchanged, hfilter]

/-- The options that have no effect are cleared alike. -/
theorem resolve_exchanged : c.exchanged.resolve = c.resolve.exchanged := by
  rw [resolve, resolveSearchBy_exchanged, resolveWords_exchanged, resolvePatterns_exchanged]
  rfl

end QueryConfig

namespace Query

theorem build_exchanged (c : QueryConfig) (speaker : SpeakerFilter) :
    build c.exchanged speaker = (build c speaker).exchanged := by
  have hgroup : TierFilter.ofConfig (filterId "alignedGroup") c.exchanged.alignedGroup = _ :=
    TierFilter.ofConfig_exchanged _ c.alignedGroup
  have hword : TierFilter.ofConfig (filterId "alignedWord") c.exchanged.alignedWord = _ :=
    TierFilter.ofConfig_exchanged _ c.alignedWord
  rw [build, hgroup, hword]
  rfl

theorem ofConfig_exchanged (c : QueryConfig) (anySpeaker : Bool) :
    ofConfig c.exchanged anySpeaker = (ofConfig c anySpeaker).map exchanged := by
  have hspeaker : speakerOf c.exchanged.resolve anySpeaker = speakerOf c.resolve anySpeaker := by
    rw [c.resolve_exchanged]
    rfl
  rw [ofConfig, ofConfig, hspeaker, c.resolve_exchanged]
  cases speakerOf c.resolve anySpeaker with
  | error e => rfl
  | ok speaker => exact congrArg Except.ok (build_exchanged c.resolve speaker)

theorem searchesSide_build {c : QueryConfig} {side : Side} (h : c.SearchesSide side)
    (speaker : SpeakerFilter) : (build c speaker).SearchesSide side where
  searchTier := h.searchTier
  groupTiers := congrArg (fun names => (TierSelection.read _ names).tiers) h.groupTiers
  wordTiers := congrArg (fun names => (TierSelection.read _ names).tiers) h.wordTiers
  scores := h.scores

/-- A query with the sides exchanged has the same results in the exchanged record, in the same
order, with the names of the two transcriptions exchanged. -/
theorem exchanged_results {c : QueryConfig} {side : Side} (h : c.SearchesSide side)
    (anySpeaker : Bool) (session : Session) (recordIndex : Nat) (record : Record) :
    (ofConfig c.exchanged anySpeaker).map
        (fun q => q.results session recordIndex record.exchanged) =
      (ofConfig c anySpeaker).map
        (fun q => (q.results session recordIndex record).map QueryResult.exchanged) := by
  rw [ofConfig_exchanged]
  cases hq : ofConfig c anySpeaker with
  | error e => rfl
  | ok q =>
    obtain ⟨speaker, -, rfl⟩ := ofConfig_ok hq
    have hsearches := searchesSide_build h.resolve speaker
    exact congrArg Except.ok (hsearches.results_exchanged session recordIndex record)

/-- A record whose target side lacks the second word of the actual one. -/
def secondWordRecord : Record :=
  let consonant c := Element.phone (.ofGlyph c (.ofList [.consonant]))
  let vowel c := Element.phone (.ofGlyph c (.ofList [.vowel]))
  let target := [consonant 'k', vowel 'a', consonant 't']
  let actual := [vowel 'a', consonant 't', .wordBoundary, vowel 'ɪ']
  let alignment :=
    ⟨[⟨some 0, none⟩, ⟨some 1, some 0⟩, ⟨some 2, some 1⟩, ⟨none, some 3⟩]⟩
  ⟨none, none, [⟨[], target, actual, alignment, []⟩], none, []⟩

/-- A search for the vowel a in the target words that are spoken with a t. -/
def secondWordConfig : QueryConfig :=
  { searchBy := .word
    primary := { expression := ['V'], dialect := .soundClass }
    targetResult := { expression := ['a'], caseSensitive := true }
    alignedWord :=
      { tier := " IPA Actual".toList, pattern := { expression := ['t'], caseSensitive := true } } }

/-- The vowel that is found is the same from both sides. -/
theorem exchanged_results_second_word : ∃ q q',
    ofConfig secondWordConfig true = .ok q ∧ ofConfig secondWordConfig.exchanged true = .ok q' ∧
      (q.results ⟨[], none, [], []⟩ 0 secondWordRecord).map
          (·.values.map fun v => (v.tier, v.span, v.data)) =
        [[(.ipa .target, ⟨1, 2⟩, ['a']), (.ipa .actual, ⟨0, 1⟩, ['a'])]] ∧
      q'.results ⟨[], none, [], []⟩ 0 secondWordRecord.exchanged =
        (q.results ⟨[], none, [], []⟩ 0 secondWordRecord).map QueryResult.exchanged := by
  have hsearches : secondWordConfig.SearchesSide .target := ⟨rfl, rfl, rfl, rfl⟩
  refine ⟨_, _, rfl, rfl, by decide +kernel, ?_⟩
  exact Except.ok.inj (exchanged_results hsearches true _ 0 secondWordRecord)

end Query

end PhoneticSearch
