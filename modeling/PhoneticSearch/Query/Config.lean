import PhoneticSearch.Filter.Participant
import PhoneticSearch.Filter.Syllable
import PhoneticSearch.Filter.Tier
import PhoneticSearch.Score

/-!
# Queries as they are asked for

A `QueryConfig` says which tier is searched by which pattern, which groups, words,
syllables and speakers are looked at, and what goes into the results.  Some options
depend on others; `QueryConfig.resolve` clears those that have no effect.
-/

namespace PhoneticSearch

/-- What the pattern of a query is applied to. -/
inductive SearchBy where
  | group
  | word
  | syllable
deriving DecidableEq

namespace SearchBy

/-- The name of what is searched. -/
def name : SearchBy → String
  | group => "group"
  | word => "word"
  | syllable => "syllable"

/-- What is searched, given by its name. -/
def decode : Decoder SearchBy := .choice ([group, word, syllable].map fun s => (s.name, s))

end SearchBy

/-- A query as it is asked for. -/
structure QueryConfig where
  searchTier : TierName := .ipa .target
  searchBy : SearchBy := .group
  /-- Whether syllables are taken from words rather than from groups. -/
  syllablesInWords : Bool := true
  primary : PatternSpec := { dialect := .phonex }
  /-- Whether the phones aligned with a hit go into its result. -/
  includeAligned : Bool := true
  /-- A pattern for the target side of a hit. -/
  targetResult : PatternSpec := { dialect := .phonex }
  /-- A pattern for the actual side of a hit. -/
  actualResult : PatternSpec := { dialect := .phonex }
  /-- A pattern for the searched tier of a group. -/
  tierFilter : PatternSpec := {}
  alignedGroup : TierFilterConfig := {}
  groups : PositionFlags := {}
  words : PositionFlags := {}
  /-- A pattern for the searched tier of a word. -/
  wordPattern : PatternSpec := {}
  alignedWord : TierFilterConfig := {}
  syllables : SyllableFlags := {}
  participant : ParticipantConfig := {}
  /-- The tiers of a group that go into each result. -/
  groupTiers : Text := []
  /-- The tiers of a word that go into each result. -/
  wordTiers : Text := []
  scores : ScoreOptions := {}
  /-- The number of workers that is asked for; results do not depend on it. -/
  threads : Option Nat := none
deriving DecidableEq

namespace QueryConfig

/-- Whether words are searched, or syllables in words. -/
def searchesWords (c : QueryConfig) : Bool :=
  match c.searchBy with
  | .group => false
  | .word => true
  | .syllable => c.syllablesInWords

/-! ### Options that depend on others -/

/-- Syllables are searched in transcriptions only; other tiers are searched by
word. -/
def resolveSearchBy (c : QueryConfig) : QueryConfig :=
  if c.searchBy = .syllable ∧ c.searchTier.side? = none then { c with searchBy := .word } else c

/-- Options for words are cleared where words are not searched. -/
def resolveWords (c : QueryConfig) : QueryConfig :=
  if c.searchesWords then c
  else { c with
    alignedWord := { c.alignedWord with enabled := false }
    wordPattern := { c.wordPattern with expression := [] }
    wordTiers := [] }

/-- A filter of a tier with a blank name is switched off. -/
def resolveTierFilter (f : TierFilterConfig) : TierFilterConfig :=
  if (Text.trim f.tier).isEmpty then { f with enabled := false } else f

/-- Case does not matter in dialects that have no case. -/
def resolveCase (p : PatternSpec) : PatternSpec :=
  { p with caseSensitive := p.caseSensitive && p.dialect.supportsCase }

/-- A filter of a tier with its pattern resolved. -/
def resolveTierCase (f : TierFilterConfig) : TierFilterConfig :=
  { f with pattern := resolveCase f.pattern }

/-- The patterns of a query, each resolved. -/
def resolvePatterns (c : QueryConfig) : QueryConfig :=
  { c with
    primary := resolveCase c.primary
    targetResult := resolveCase c.targetResult
    actualResult := resolveCase c.actualResult
    tierFilter := resolveCase c.tierFilter
    wordPattern := resolveCase c.wordPattern
    alignedGroup := resolveTierCase (resolveTierFilter c.alignedGroup)
    alignedWord := resolveTierCase (resolveTierFilter c.alignedWord) }

/-- A query without the options that have no effect. -/
def resolve (c : QueryConfig) : QueryConfig := c.resolveSearchBy.resolveWords.resolvePatterns

/-- A query in one line. -/
def describe (c : QueryConfig) : String :=
  c.searchTier.text.asString ++ " " ++ c.primary.dialect.name ++ " '" ++
    c.primary.expression.asString ++ "' by " ++ c.searchBy.name

/-- Decodes a record with all its fields optional. -/
def decode : Decoder QueryConfig := fun j => do
  let row ← Row.ofJson
    ["search_tier", "search_by", "syllables_in_words", "primary", "include_aligned",
     "target_result_filter", "actual_result_filter", "tier_filter", "aligned_group", "groups",
     "words", "word_pattern", "aligned_word", "syllables", "participant", "group_tiers",
     "word_tiers", "pcc", "threads"] j
  let c : QueryConfig := {}
  return {
    searchTier := ← row.withDefault "search_tier" TierName.decode c.searchTier
    searchBy := ← row.withDefault "search_by" SearchBy.decode c.searchBy
    syllablesInWords := ← row.withDefault "syllables_in_words" .bool c.syllablesInWords
    primary := ← row.withDefault "primary" PatternSpec.decode c.primary
    includeAligned := ← row.withDefault "include_aligned" .bool c.includeAligned
    targetResult := ← row.withDefault "target_result_filter" PatternSpec.decode c.targetResult
    actualResult := ← row.withDefault "actual_result_filter" PatternSpec.decode c.actualResult
    tierFilter := ← row.withDefault "tier_filter" PatternSpec.decode c.tierFilter
    alignedGroup := ← row.withDefault "aligned_group" TierFilterConfig.decode c.alignedGroup
    groups := ← row.withDefault "groups" PositionFlags.decode c.groups
    words := ← row.withDefault "words" PositionFlags.decode c.words
    wordPattern := ← row.withDefault "word_pattern" PatternSpec.decode c.wordPattern
    alignedWord := ← row.withDefault "aligned_word" TierFilterConfig.decode c.alignedWord
    syllables := ← row.withDefault "syllables" SyllableFlags.decode c.syllables
    participant := ← row.withDefault "participant" ParticipantConfig.decode c.participant
    groupTiers := ← row.withDefault "group_tiers" .text c.groupTiers
    wordTiers := ← row.withDefault "word_tiers" .text c.wordTiers
    scores := ← row.withDefault "pcc" ScoreOptions.decode c.scores
    threads := ← row.withDefault "threads" (.optional .count) c.threads }

end QueryConfig

end PhoneticSearch
