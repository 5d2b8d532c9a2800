import PhoneticSearch.Result.Basic
import PhoneticSearch.Score

/-!
# Aggregates of results

What a list of results amounts to: how many records, sessions and groups have
results, how the results are spread over tiers and speakers, which records have most
of them, and the scores of the groups with results taken together.
-/

namespace PhoneticSearch

/-- How often each value of a list occurs, each value once. -/
def tally {α : Type} [BEq α] (values : List α) : List (α × Nat) :=
  values.eraseDups.map fun x => (x, values.count x)

/-- How often each name of a list occurs, in the order of the names. -/
def nameTally (names : List Text) : List (Text × Nat) :=
  (names.eraseDups.mergeSort fun a b => !decide (b < a)).map fun x => (x, names.count x)

/-- The number of results of a record. -/
structure RecordCount where
  session : Text
  recordIndex : Nat
  count : Nat
deriving DecidableEq

/-- Whether a record is listed before or beside another: records with more results
come first, then the order is that of sessions and records. -/
def RecordCount.notAfter (a b : RecordCount) : Bool :=
  b.count < a.count || (a.count == b.count &&
    (a.session < b.session || (a.session == b.session && a.recordIndex ≤ b.recordIndex)))

/-- The scores of some groups taken together. -/
structure ScoreTotal where
  score : AlignedScore
  /-- The correct phones for every hundred attempted ones, if any is attempted. -/
  percentCorrect : Option Float32

/-- The total of a score. -/
def ScoreTotal.ofScore (score : AlignedScore) : ScoreTotal :=
  ⟨score, if score.attempted = 0 then none
    else some (Float32.ofNat score.correct * 100 / Float32.ofNat score.attempted)⟩

/-- The totals of the scores that are asked for. -/
structure ScoreTotals where
  consonants : Option ScoreTotal
  vowels : Option ScoreTotal

/-- What a list of results amounts to. -/
structure Aggregates where
  results : Nat
  recordsWithResults : Nat
  sessionsWithResults : Nat
  groupsWithResults : Nat
  /-- The numbers of results whose primary value is of a tier, in the order of the tiers' names. -/
  byTier : List (Text × Nat)
  /-- The numbers of results of speakers, in the order of their names. -/
  bySpeaker : List (Text × Nat)
  scores : Option ScoreTotals
  /-- The records with most results. -/
  densest : List RecordCount

namespace Aggregates

/-- The number of records that are listed as those with most results. -/
def densestSize : Nat := 20

/-- The record with a key; of records with the same key the last one counts. -/
def record? (corpus : Corpus) (key : Text × Nat) : Option Record :=
  (corpus.filterMap fun s => if s.name == key.1 then s.records[key.2]? else none).getLast?

/-- The name of the speaker of a record. -/
def speakerName (record : Option Record) : Text :=
  match record.bind (·.speaker) with
  | some p => p.displayName
  | none => "(unknown)".toList

/-- A group with results: the key of its record and its number there. -/
abbrev GroupKey := (Text × Nat) × Nat

/-- The groups of the primary values, each once. -/
def groupKeys (results : List QueryResult) : List GroupKey :=
  (results.filterMap fun r => r.primary.map fun v => (r.key, v.groupIndex)).eraseDups

/-- The scores of some groups of a corpus taken together. -/
def totalScore (corpus : Corpus) (groups : List GroupKey) (features : FeatureSet)
    (ignoreDiacritics : Bool) : AlignedScore :=
  (groups.filterMap fun (key, i) => (record? corpus key).bind (·.groups[i]?)).foldl
    (fun score g => score.add (.ofGroup g features ignoreDiacritics)) {}

/-- The totals of the scores that are asked for. -/
def scoreTotals (corpus : Corpus) (groups : List GroupKey) (options : ScoreOptions) :
    ScoreTotals :=
  let total (features : List Feature) : ScoreTotal :=
    .ofScore (totalScore corpus groups (.ofList features) options.ignoreDiacritics)
  { consonants := if options.consonants then some (total [.consonant]) else none
    vowels := if options.vowels then some (total [.vowel]) else none }

/-- The numbers of results of the records, the greatest ones first. -/
def recordCounts (results : List QueryResult) : List RecordCount :=
  ((tally (results.map QueryResult.key)).map fun ((session, i), count) =>
    (⟨session, i, count⟩ : RecordCount)).mergeSort RecordCount.notAfter

/-- What a list of results of a corpus amounts to. -/
def ofResults (results : List QueryResult) (corpus : Corpus) (options : ScoreOptions) :
    Aggregates :=
  let groups := groupKeys results
  { results := results.length
    recordsWithResults := (results.map QueryResult.key).eraseDups.length
    sessionsWithResults := (results.map (·.session)).eraseDups.length
    groupsWithResults := groups.length
    byTier := nameTally (results.filterMap fun r => r.primary.map (·.tier.text))
    bySpeaker := nameTally (results.map fun r => speakerName (record? corpus r.key))
    scores := if options.isEnabled then some (scoreTotals corpus groups options) else none
    densest := (recordCounts results).take densestSize }

end Aggregates

end PhoneticSearch
