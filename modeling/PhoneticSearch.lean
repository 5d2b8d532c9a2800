import PhoneticSearch.Alignment
import PhoneticSearch.Calendar.Age
import PhoneticSearch.Calendar.Date
import PhoneticSearch.Corpus.Participant
import PhoneticSearch.Corpus.Reader
import PhoneticSearch.Corpus.Record
import PhoneticSearch.Corpus.SearchObject
import PhoneticSearch.Corpus.Word
import PhoneticSearch.Feature.Basic
import PhoneticSearch.Feature.Set
import PhoneticSearch.Feature.Table
import PhoneticSearch.Filter.Basic
import PhoneticSearch.Filter.Participant
import PhoneticSearch.Filter.Pattern
import PhoneticSearch.Filter.Position
import PhoneticSearch.Filter.Syllable
import PhoneticSearch.Filter.Tier
import PhoneticSearch.Json.Decode
import PhoneticSearch.Json.Reader
import PhoneticSearch.Json.Value
import PhoneticSearch.Pattern.Compiled
import PhoneticSearch.Pattern.Cursor
import PhoneticSearch.Pattern.Dialect
import PhoneticSearch.Pattern.Located
import PhoneticSearch.Pattern.Phonex.Ends
import PhoneticSearch.Pattern.Phonex.Reader
import PhoneticSearch.Pattern.Phonex.Search
import PhoneticSearch.Pattern.Phonex.SymbolMap
import PhoneticSearch.Pattern.Phonex.Syntax
import PhoneticSearch.Pattern.Phonex.Table
import PhoneticSearch.Pattern.Plain
import PhoneticSearch.Pattern.Plain.Compile
import PhoneticSearch.Pattern.Quantifier
import PhoneticSearch.Pattern.Regex.Automaton
import PhoneticSearch.Pattern.Regex.Class
import PhoneticSearch.Pattern.Regex.Footprint
import PhoneticSearch.Pattern.Regex.Meaning
import PhoneticSearch.Pattern.Regex.Pattern
import PhoneticSearch.Pattern.Regex.Place
import PhoneticSearch.Pattern.Regex.Reader
import PhoneticSearch.Pattern.Regex.Search
import PhoneticSearch.Pattern.Regex.Syntax
import PhoneticSearch.Pattern.Sequence.Compile
import PhoneticSearch.Pattern.Sequence.Search
import PhoneticSearch.Pattern.Sequence.Spelling
import PhoneticSearch.Pattern.Sequence.Syntax
import PhoneticSearch.Pattern.Value
import PhoneticSearch.Position
import PhoneticSearch.Proofs.Alignment.Matching
import PhoneticSearch.Proofs.Alignment.Ordinals
import PhoneticSearch.Proofs.Corpus.Exchange
import PhoneticSearch.Proofs.Corpus.Group
import PhoneticSearch.Proofs.Outcome
import PhoneticSearch.Proofs.Pattern.Folding
import PhoneticSearch.Proofs.Pattern.Found
import PhoneticSearch.Proofs.Pattern.Order
import PhoneticSearch.Proofs.Pattern.SoundClass
import PhoneticSearch.Proofs.Phonex.Ends
import PhoneticSearch.Proofs.Phonex.Meaning
import PhoneticSearch.Proofs.Phonex.Search
import PhoneticSearch.Proofs.Phonex.Segment
import PhoneticSearch.Proofs.Phonex.Table
import PhoneticSearch.Proofs.Phonex.Words
import PhoneticSearch.Proofs.Query.Address
import PhoneticSearch.Proofs.Query.Exchange
import PhoneticSearch.Proofs.Query.Filtering
import PhoneticSearch.Proofs.Query.Narrower
import PhoneticSearch.Proofs.Query.WordSearch
import PhoneticSearch.Proofs.Regex.Leftmost
import PhoneticSearch.Proofs.Regex.Search
import PhoneticSearch.Proofs.Result.Attribution
import PhoneticSearch.Proofs.Score.Duality
import PhoneticSearch.Proofs.Score.Intersection
import PhoneticSearch.Proofs.Score.Sum
import PhoneticSearch.Proofs.Search.Address
import PhoneticSearch.Proofs.Sequence.Search
import PhoneticSearch.Proofs.Sequence.Slices
import PhoneticSearch.Proofs.Sequence.Spacing
import PhoneticSearch.Proofs.Span
import PhoneticSearch.Proofs.Text.Items
import PhoneticSearch.Proofs.Text.Part
import PhoneticSearch.Proofs.Tier.Selection
import PhoneticSearch.Proofs.Transcription.Constituents
import PhoneticSearch.Proofs.Transcription.Cuts
import PhoneticSearch.Proofs.Transcription.DefaultSyllables
import PhoneticSearch.Proofs.Transcription.Division
import PhoneticSearch.Proofs.Transcription.Legible
import PhoneticSearch.Proofs.Transcription.ReadBack
import PhoneticSearch.Proofs.Transcription.Subsection
import PhoneticSearch.Proofs.Transcription.Syllable
import PhoneticSearch.Proofs.Transcription.VowelCuts
import PhoneticSearch.Query.Basic
import PhoneticSearch.Query.Config
import PhoneticSearch.Query.Run
import PhoneticSearch.Result.Aggregate
import PhoneticSearch.Result.Basic
import PhoneticSearch.Result.Collection
import PhoneticSearch.Score
import PhoneticSearch.Search.Location
import PhoneticSearch.Span
import PhoneticSearch.Text.Basic
import PhoneticSearch.Text.Blank
import PhoneticSearch.Text.ByteRanges
import PhoneticSearch.Text.CaseFold
import PhoneticSearch.Text.CaseRun
import PhoneticSearch.Text.CharSet
import PhoneticSearch.Text.Letter
import PhoneticSearch.Text.Lowercase
import PhoneticSearch.Text.Ranges
import PhoneticSearch.Text.Unicode.Age
import PhoneticSearch.Text.Unicode.Basic
import PhoneticSearch.Text.Unicode.Break
import PhoneticSearch.Text.Unicode.Category
import PhoneticSearch.Text.Unicode.Property
import PhoneticSearch.Text.Unicode.Script
import PhoneticSearch.Text.Words
import PhoneticSearch.Tier.Derived
import PhoneticSearch.Tier.Name
import PhoneticSearch.Tier.Selection
import PhoneticSearch.Transcription.Basic
import PhoneticSearch.Transcription.Element
import PhoneticSearch.Transcription.Reader
import PhoneticSearch.Transcription.Syllabification
import PhoneticSearch.Transcription.Syllable
import PhoneticSearch.Proofs.Query.Run
import PhoneticSearch.Proofs.Phonex.Transparency
import PhoneticSearch.Proofs.Transcription.WordSyllables
import PhoneticSearch.Proofs.Query.Dependencies
import PhoneticSearch.Proofs.Sequence.Language
import PhoneticSearch.Proofs.Regex.Build
import PhoneticSearch.Proofs.Sequence.Engine
import PhoneticSearch.Proofs.Regex.Room
import PhoneticSearch.Proofs.Sequence.Room
import PhoneticSearch.Proofs.Sequence.Compiled
import PhoneticSearch.Proofs.Sequence.StressPattern
import PhoneticSearch.Proofs.Alignment.Projection
import PhoneticSearch.Proofs.Alignment.Restriction
import PhoneticSearch.Proofs.Search.Alignment
import PhoneticSearch.Proofs.Regex.Takes
import PhoneticSearch.Proofs.Regex.Reach
import PhoneticSearch.Proofs.Regex.Built
import PhoneticSearch.Proofs.Regex.Moved
import PhoneticSearch.Proofs.Regex.Framed.Frame
import PhoneticSearch.Proofs.Regex.Framed.Escapes
import PhoneticSearch.Proofs.Regex.Framed.Classes
import PhoneticSearch.Proofs.Regex.Framed.Reader
import PhoneticSearch.Proofs.Regex.Anchored
import PhoneticSearch.Proofs.Calendar.Date
import PhoneticSearch.Proofs.Calendar.Written
import PhoneticSearch.Proofs.Calendar.Age
import PhoneticSearch.Proofs.Filter.Aging
import PhoneticSearch.Proofs.Result.Tally
import PhoneticSearch.Proofs.Result.Conservation
import PhoneticSearch.Proofs.Regex.Reading
import PhoneticSearch.Proofs.Text.CaseFold
import PhoneticSearch.Proofs.Pattern.Occurrences
import PhoneticSearch.Proofs.Pattern.PlainSearch
import PhoneticSearch.Proofs.Result.Collection
import PhoneticSearch.Proofs.Tier.Entries
import PhoneticSearch.Proofs.Transcription.Tokens
import PhoneticSearch.Proofs.Transcription.Joined
import PhoneticSearch.Proofs.Text.Words
import PhoneticSearch.Proofs.Transcription.Extent
import PhoneticSearch.Proofs.Tier.Data
import PhoneticSearch.Proofs.Phonex.Grammar
import PhoneticSearch.Proofs.Phonex.FeatureSets
import PhoneticSearch.Proofs.Phonex.Matchers
import PhoneticSearch.Proofs.Phonex.Expressions
import PhoneticSearch.Proofs.Phonex.Literal
import PhoneticSearch.Proofs.Sequence.Validation
import PhoneticSearch.Proofs.Transcription.Bare
import PhoneticSearch.Proofs.Score.Diacritics
import PhoneticSearch.Proofs.Text.WordSpans
import PhoneticSearch.Proofs.Corpus.Splitting
import PhoneticSearch.Proofs.Pattern.PlainWords
import PhoneticSearch.Proofs.Query.TextSearch
