import PhoneticSearch.Corpus.Word
import PhoneticSearch.Position
import PhoneticSearch.Transcription.Syllable

/-!
# What is searched

A pattern is applied to a group, to a word or to a syllable.  Each has values on the
tiers, and offsets that say where these values stand in the values of the group: a
hit at `s` in the value of the object is at `s` plus the offset in the group.
-/

namespace PhoneticSearch

/-- A group of a record. -/
structure GroupView where
  record : Record
  group : Group
  /-- The number of the group in its record. -/
  index : Nat
deriving DecidableEq

namespace GroupView

/-- The words of a group. -/
def words (g : GroupView) : List Word := g.group.words g.index

/-- The value of a group on a tier; what the group lacks is looked up in the
record. -/
def tierValue (g : GroupView) : TierName → Option Value
  | .notes => g.record.notes.map .text
  | .user name =>
    match g.group.tiers.lookup name with
    | some t => some (.text t)
    | none => (g.record.tiers.lookup name).map .text
  | tier => g.group.tierValue tier

end GroupView

/-- The groups of a record. -/
def Record.groupViews (r : Record) : List GroupView :=
  r.groups.zipIdx.map fun (g, i) => ⟨r, g, i⟩

/-- What syllables are taken from. -/
inductive Scope where
  | group (g : GroupView)
  | word (w : Word)
deriving DecidableEq

namespace Scope

/-- The group that a scope belongs to. -/
def inGroup : Scope → Group
  | group g => g.group
  | word w => w.group

/-- The number of that group in its record. -/
def groupIndex : Scope → Nat
  | group g => g.index
  | word w => w.groupIndex

/-- The value of a scope on a tier. -/
def tierValue : Scope → TierName → Option Value
  | group g => g.tierValue
  | word w => w.tierValue

/-- The byte offset of a scope in the value of its group. -/
def tierOffset : Scope → TierName → Nat
  | group _, _ => 0
  | word w, tier => w.tierOffset tier

/-- The position of the first element of a scope in the transcription of its
group. -/
def elementOffset : Scope → TierName → Nat
  | group _, _ => 0
  | word w, tier => w.elementOffset tier

/-- The elements of a scope on one side, if there are any. -/
def elementSpan? : Scope → Side → Option Span
  | group g, side => some ⟨0, (g.group.transcription side).length⟩
  | word w, side => w.elementSpan? side

end Scope

/-- A syllable of one of the transcriptions; the other tiers are those of its
scope. -/
structure SyllableView where
  scope : Scope
  side : Side
  /-- The elements of the syllable in the transcription of the group. -/
  span : Span
  /-- The number of the syllable in its scope. -/
  index : Nat
  position : Position
  stress : SyllableStress
deriving DecidableEq

namespace SyllableView

/-- Whether a tier is the transcription that the syllable belongs to. -/
def isOwnTier (s : SyllableView) (tier : TierName) : Bool := tier == .ipa s.side

/-- The transcription that the syllable belongs to. -/
def transcription (s : SyllableView) : Transcription := s.scope.inGroup.transcription s.side

/-- The value of a syllable on a tier. -/
def tierValue (s : SyllableView) (tier : TierName) : Option Value :=
  if s.isOwnTier tier then some (.transcription (s.transcription.subsection s.span))
  else s.scope.tierValue tier

/-- The byte offset of a syllable in the value of its group. -/
def tierOffset (s : SyllableView) (tier : TierName) : Nat :=
  if s.isOwnTier tier then s.transcription.byteOffset s.span.start else s.scope.tierOffset tier

/-- The position of the first element of a syllable in the transcription of its
group. -/
def elementOffset (s : SyllableView) (tier : TierName) : Nat :=
  if s.isOwnTier tier then s.span.start else s.scope.elementOffset tier

/-- The elements of a syllable on its own side; on the other side the elements that
are aligned with it. -/
def elementSpan? (s : SyllableView) (side : Side) : Option Span :=
  if side = s.side then some s.span else s.scope.inGroup.alignment.project s.side s.span

end SyllableView

/-- What a pattern is applied to. -/
inductive SearchObject where
  | scope (s : Scope)
  | syllable (s : SyllableView)
deriving DecidableEq

namespace SearchObject

/-- The scope that an object is or belongs to. -/
def toScope : SearchObject → Scope
  | scope s => s
  | syllable s => s.scope

/-- The group that an object belongs to. -/
def group (o : SearchObject) : Group := o.toScope.inGroup

/-- The number of that group in its record. -/
def groupIndex (o : SearchObject) : Nat := o.toScope.groupIndex

/-- The word that an object is or belongs to, if there is one. -/
def word? (o : SearchObject) : Option Word :=
  match o.toScope with
  | .word w => some w
  | .group _ => none

/-- The value of an object on a tier. -/
def tierValue : SearchObject → TierName → Option Value
  | scope s => s.tierValue
  | syllable s => s.tierValue

/-- The byte offset of an object in the value of its group. -/
def tierOffset : SearchObject → TierName → Nat
  | scope s => s.tierOffset
  | syllable s => s.tierOffset

/-- The position of the first element of an object in the transcription of its
group. -/
def elementOffset : SearchObject → TierName → Nat
  | scope s => s.elementOffset
  | syllable s => s.elementOffset

/-- The elements of an object on one side, if there are any. -/
def elementSpan? : SearchObject → Side → Option Span
  | scope s => s.elementSpan?
  | syllable s => s.elementSpan?

/-- The elements of an object on one side; the empty span where there are none. -/
def elementSpan (o : SearchObject) (side : Side) : Span := (o.elementSpan? side).getD ⟨0, 0⟩

/-- The transcription of an object on one side. -/
def transcription (o : SearchObject) (side : Side) : Transcription :=
  (o.group.transcription side).subsection (o.elementSpan side)

/-- The alignment of the elements of an object, counted from its own first
elements. -/
def alignment (o : SearchObject) : Alignment :=
  o.group.alignment.restrict (o.elementSpan .target) (o.elementSpan .actual)

end SearchObject

end PhoneticSearch
