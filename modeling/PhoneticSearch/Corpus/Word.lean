import PhoneticSearch.Corpus.Record
import PhoneticSearch.Text.Words

/-!
# The words of a group

The words of the tiers of a group are counted side by side: word number `i` is the
`i`th word of every tier that has so many.
-/

namespace PhoneticSearch

/-- A word of a group, by its number. -/
structure Word where
  group : Group
  /-- The number of the group in its record. -/
  groupIndex : Nat
  index : Nat
deriving DecidableEq

namespace Group

/-- The number of words of the tier that has most of them. -/
def wordCount (g : Group) : Nat :=
  let texts := g.orthography :: g.tiers.map (·.2)
  (texts.map fun t => (Text.words t).length).foldl max
    (max (Transcription.wordSpans g.target).length (Transcription.wordSpans g.actual).length)

/-- The words of the group with a number. -/
def words (g : Group) (groupIndex : Nat) : List Word :=
  (List.range g.wordCount).map fun index => ⟨g, groupIndex, index⟩

end Group

namespace Word

/-- The elements of a word on one side, if there are any. -/
def elementSpan? (w : Word) (side : Side) : Option Span :=
  (Transcription.wordSpans (w.group.transcription side))[w.index]?

/-- The word of a text with its byte offset, if there is one. -/
def textWord? (w : Word) (tier : TierName) : Option (Nat × Text) :=
  (w.group.text? tier).bind fun t => (Text.words t)[w.index]?

/-- The value of a word on a tier. -/
def tierValue (w : Word) : TierName → Option Value
  | .ipa side =>
    (w.elementSpan? side).map fun s => .transcription ((w.group.transcription side).subsection s)
  | tier => (w.textWord? tier).map fun (_, word) => .text word

/-- The byte offset of a word in the value of the group. -/
def tierOffset (w : Word) : TierName → Nat
  | .ipa side =>
    (w.elementSpan? side).elim 0 fun s => (w.group.transcription side).byteOffset s.start
  | tier => (w.textWord? tier).elim 0 (·.1)

/-- The position of the first element of a word in the transcription of the group. -/
def elementOffset (w : Word) : TierName → Nat
  | .ipa side => (w.elementSpan? side).elim 0 (·.start)
  | _ => 0

end Word

end PhoneticSearch
