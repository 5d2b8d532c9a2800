import PhoneticSearch.Query.Config
import PhoneticSearch.Search.Location
import PhoneticSearch.Tier.Selection

/-!
# Queries

A `Query` is a configuration that has been put into effect: its patterns are
compiled and its filters built.  `Query.results` are the results of one record, in
the order in which they are found.
-/

namespace PhoneticSearch

/-- Which speakers are searched. -/
inductive SpeakerFilter where
  /-- All of them. -/
  | anyone
  | participants (f : ParticipantFilter)

/-- Whether a speaker is searched. -/
def SpeakerFilter.check : SpeakerFilter → Option Participant → Option Date → Bool
  | anyone, _, _ => true
  | participants f, speaker, date => f.check speaker date

/-- A configured query. -/
structure Query where
  searchTier : TierName
  searchBy : SearchBy
  syllablesInWords : Bool
  includeAligned : Bool
  primary : PatternFilter
  targetResult : PatternFilter
  actualResult : PatternFilter
  tierFilter : PatternFilter
  alignedGroup : TierFilter
  groups : GroupFilter
  words : WordFilter
  wordPattern : PatternFilter
  alignedWord : TierFilter
  syllables : SyllableFilter
  speaker : SpeakerFilter
  groupTiers : TierSelection
  wordTiers : TierSelection
  scores : ScoreOptions

/-- A search object, with the position of the word it is taken from. -/
structure Candidate where
  object : SearchObject
  wordPosition : Option Position
deriving DecidableEq

namespace Query

/-- The filter with a name. -/
def filterId (name : String) : Text := ("filters." ++ name).toList

/-- The filter of speakers that is asked for; it is the only one that may be
refused. -/
def speakerOf (c : QueryConfig) (anySpeaker : Bool) :
    Except ParticipantFilter.TooManyAges SpeakerFilter :=
  if anySpeaker then .ok .anyone
  else (ParticipantFilter.ofConfig (filterId "speaker") c.participant).map .participants

/-- The query of a resolved configuration, with a filter of speakers. -/
def build (c : QueryConfig) (speaker : SpeakerFilter) : Query :=
  { searchTier := c.searchTier
    searchBy := c.searchBy
    syllablesInWords := c.syllablesInWords
    includeAligned := c.includeAligned
    primary := .ofSpec (filterId "primary") c.primary
    targetResult := .ofSpec (filterId "targetResultFilter") c.targetResult
    actualResult := .ofSpec (filterId "actualResultFilter") c.actualResult
    tierFilter := .ofSpec (filterId "tierFilter") c.tierFilter
    alignedGroup := .ofConfig (filterId "alignedGroup") c.alignedGroup
    groups := ⟨filterId "group", c.groups, {}⟩
    words := ⟨filterId "word", c.words, c.searchesWords, {}⟩
    wordPattern := .ofSpec (filterId "wordPattern") c.wordPattern
    alignedWord := .ofConfig (filterId "alignedWord") c.alignedWord
    syllables := ⟨filterId "syllable", c.syllables, c.searchBy == .syllable, {}⟩
    speaker
    groupTiers := .read (filterId "groupTiers") c.groupTiers
    wordTiers := .read (filterId "wordTiers") c.wordTiers
    scores := c.scores }

/-- The query that a configuration asks for. -/
def ofConfig (config : QueryConfig) (anySpeaker : Bool) :
    Except ParticipantFilter.TooManyAges Query :=
  let c := config.resolve
  (speakerOf c anySpeaker).map (build c)

variable (q : Query)

/-! ### What is searched -/

/-- Whether an object passes a pattern for the searched tier and a filter of another
tier, as far as these are in use. -/
def passes (pattern : PatternFilter) (tierFilter : TierFilter) (o : SearchObject) : Bool :=
  (!pattern.inUse || pattern.accepts q.searchTier o) &&
    (!tierFilter.inUse || tierFilter.check o)

/-- Whether a group is searched. -/
def acceptsGroup (g : GroupView) : Bool :=
  q.passes q.tierFilter q.alignedGroup (.scope (.group g))

/-- Whether a word is searched. -/
def acceptsWord (w : Word) : Bool := q.passes q.wordPattern q.alignedWord (.scope (.word w))

/-- The words of a group that are searched, with their positions. -/
def wordsOf (g : GroupView) : List (Position × Word) :=
  (q.words.select g.words).filterMap fun (_, position, w) =>
    if q.acceptsWord w then some (position, w) else none

/-- The syllables of a scope that are searched. -/
def syllablesOf (scope : Scope) (position : Option Position) : List Candidate :=
  match q.searchTier.side? with
  | none => []
  | some side => (q.syllables.select scope side).map fun s => ⟨.syllable s, position⟩

/-- What the pattern is applied to in a group. -/
def candidates (g : GroupView) : List Candidate :=
  match q.searchBy with
  | .group => [⟨.scope (.group g), none⟩]
  | .word => (q.wordsOf g).map fun (position, w) => ⟨.scope (.word w), some position⟩
  | .syllable =>
    if q.syllablesInWords then
      (q.wordsOf g).flatMap fun (position, w) => q.syllablesOf (.word w) (some position)
    else q.syllablesOf (.group g) none

/-! ### What is found -/

/-- Whether the two sides of a hit are accepted; a side without phones is the empty
transcription. -/
def acceptsSides (hit : Hit) (aligned : Option AlignedHit) : Bool :=
  match q.searchTier.side? with
  | none => true
  | some side =>
    let other := Value.transcription (aligned.elim [] (·.value))
    let (target, actual) := match side with
      | .target => (hit.value, other)
      | .actual => (other, hit.value)
    (!q.targetResult.inUse || q.targetResult.check target) &&
      (!q.actualResult.inUse || q.actualResult.check actual)

/-- The schema of the results. -/
def schema : ResultSchema := if q.searchTier.side?.isSome then .aligned else .linear

/-- The data of the word that a candidate belongs to. -/
def wordData (record : Record) (c : Candidate) : TierData :=
  match c.object.word? with
  | some w => q.wordTiers.data record "Word".toList (.scope (.word w))
  | none => {}

/-- What is known about the position of a candidate. -/
def positionMetadata (c : Candidate) : Metadata :=
  (c.wordPosition.elim [] fun p => [("Word Position".toList, p.label.toList)]) ++
    match c.object with
    | .syllable s =>
      [("Syllable Position".toList, s.position.label.toList),
       ("Syllable Stress".toList, s.stress.label.toList)]
    | .scope _ => []

/-- The scores of a group. -/
def scoreMetadata (g : Group) : Metadata :=
  q.scores.alignedMetadata g ++ q.scores.standardMetadata g

/-- The result of a hit, if its two sides are accepted. -/
def result (session : Session) (recordIndex : Nat) (record : Record) (g : GroupView)
    (groupData : TierData) (c : Candidate) (hit : Hit) : Option QueryResult :=
  let placed := c.object.place q.searchTier hit
  let aligned := placed.aligned?
  if q.acceptsSides hit aligned then
    let wordData := q.wordData record c
    let alignedValues :=
      if q.includeAligned then aligned.toList.map placed.alignedResult else []
    some {
      session := session.name
      recordIndex
      schema := q.schema
      values := placed.result :: groupData.values ++ wordData.values ++ alignedValues
      metadata := (((Metadata.merge [] groupData.metadata).merge wordData.metadata).merge
        (positionMetadata c)).merge (q.scoreMetadata g.group) }
  else none

/-- The results of a candidate. -/
def candidateResults (session : Session) (recordIndex : Nat) (record : Record) (g : GroupView)
    (groupData : TierData) (c : Candidate) : List QueryResult :=
  match c.object.tierValue q.searchTier with
  | none => []
  | some v => (q.primary.find v).filterMap (q.result session recordIndex record g groupData c)

/-- The results of a group. -/
def groupResults (session : Session) (recordIndex : Nat) (record : Record) (g : GroupView) :
    List QueryResult :=
  if q.acceptsGroup g then
    let groupData := q.groupTiers.data record "Group".toList (.scope (.group g))
    (q.candidates g).flatMap (q.candidateResults session recordIndex record g groupData)
  else []

/-- Whether a record is searched: its speaker is, there is a pattern, and it has the
tier. -/
def acceptsRecord (session : Session) (record : Record) : Bool :=
  q.speaker.check record.speaker (record.date.orElse fun _ => session.date) &&
    q.primary.inUse && record.hasTier q.searchTier

/-- The results of a record. -/
def results (session : Session) (recordIndex : Nat) (record : Record) : List QueryResult :=
  if q.acceptsRecord session record then
    (q.groups.select record).flatMap fun (_, _, g) =>
      q.groupResults session recordIndex record g
  else []

end Query

end PhoneticSearch
