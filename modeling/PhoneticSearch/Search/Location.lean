import PhoneticSearch.Corpus.SearchObject
import PhoneticSearch.Result.Basic

/-!
# Where hits are

A hit is found in the value of a search object.  `SearchObject.place` moves it into
the value of the group: hits in transcriptions by the elements that the object starts
at, hits in texts by bytes.  A `PlacedHit` in one transcription is carried to the
other one through the alignment of the group.
-/

namespace PhoneticSearch

/-- A hit on a tier, at the place that it has in the value of a group. -/
structure PlacedHit where
  group : Group
  groupIndex : Nat
  tier : TierName
  hit : Hit
deriving DecidableEq

/-- Whether a hit on a tier counts elements of a transcription of the group. -/
def Hit.isInTranscription (hit : Hit) (tier : TierName) : Bool :=
  hit.value.countsElements && tier.side?.isSome

namespace SearchObject

variable (o : SearchObject) (tier : TierName) (hit : Hit)

/-- How far a hit in an object is from its place in the group. -/
def hitOffset : Nat :=
  if hit.isInTranscription tier then o.elementOffset tier else o.tierOffset tier

/-- A hit at its place in the group. -/
def place : PlacedHit :=
  ⟨o.group, o.groupIndex, tier, { hit with span := hit.span.shift (o.hitOffset tier hit) }⟩

/-- A hit at its place in the group, where positions are words of 64 bits. -/
def placeWord : PlacedHit :=
  ⟨o.group, o.groupIndex, tier, { hit with span := hit.span.shiftWord (o.hitOffset tier hit) }⟩

end SearchObject

/-- The elements of the other transcription that are aligned with a hit. -/
structure AlignedHit where
  side : Side
  elements : Span
  value : Transcription
deriving DecidableEq

namespace PlacedHit

variable (p : PlacedHit)

/-- The elements of a hit in the transcription of the group, if the hit counts
elements. -/
def elements? : Option Span := if p.hit.isInTranscription p.tier then some p.hit.span else none

/-- The bytes of a hit in the value of the group. -/
def bytes : Span :=
  match p.elements?, p.tier.side? with
  | some elements, some side => (p.group.transcription side).byteSpan elements
  | _, _ => p.hit.span

/-- The value of a hit in a result. -/
def result : ResultValue := .ofTier p.tier p.groupIndex p.bytes p.hit.value.render

/-- What is aligned with a hit, if the tier is a transcription and one of the
elements of the hit has a counterpart. -/
def aligned? : Option AlignedHit := do
  let side ← p.tier.side?
  let elements ← p.elements?
  let projected ← p.group.alignment.project side elements
  return ⟨side.other, projected, (p.group.transcription side.other).subsection projected⟩

/-- The value of an aligned hit in a result. -/
def alignedResult (aligned : AlignedHit) : ResultValue :=
  .ofTier (.ipa aligned.side) p.groupIndex
    ((p.group.transcription aligned.side).byteSpan aligned.elements) aligned.value.render

end PlacedHit

end PhoneticSearch
