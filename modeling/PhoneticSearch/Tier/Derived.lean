import PhoneticSearch.Corpus.SearchObject
import PhoneticSearch.Pattern.Phonex.SymbolMap

/-!
# Requested tiers

A tier is asked for by its name.  Most names are those of stored tiers; some stand
for tiers that are derived from the transcriptions, as `Target CV`, or
`Cover IPA Actual (Shape; C=\c; V=\v)` with a symbol map of its own.
-/

namespace PhoneticSearch

/-- A tier that is asked for. -/
inductive TierRequest where
  /-- A tier of the record. -/
  | stored (tier : TierName)
  /-- The aligned phones. -/
  | alignment
  /-- The sound classes of the phones. -/
  | soundClasses (side : Side)
  /-- The stresses of the syllables. -/
  | stress (side : Side)
  /-- The transcription with constituents. -/
  | syllabification (side : Side)
  /-- The transcription with symbols in place of phones. -/
  | cover (side : Side) (title : Text) (symbols : SymbolMap)

namespace TierRequest

/-- The side that a name has in front of an ending, if the name has this form. -/
def sideBefore (ending : String) (name : Text) : Option Side :=
  match Text.before? ending.toList name with
  | some start =>
    if start == Side.target.label.toList then some .target
    else if start == Side.actual.label.toList then some .actual
    else none
  | none => none

/-- The side, title and symbol map of a cover, as they are written.  The map is one
line, in front of which white space does not count. -/
def coverParts? (name : Text) : Option (Side × Text × Text) := do
  let rest ← Text.after? "Cover IPA ".toList name
  let (side, rest) ← match Text.after? "Target (".toList rest with
    | some rest => some (Side.target, rest)
    | none => (Text.after? "Actual (".toList rest).map (Side.actual, ·)
  let inside ← Text.before? [')'] rest
  let (title, map) ← Text.cutAt ';' inside
  match title, map with
  | _ :: _, c :: line =>
    if line.contains '\n' || (c == '\n' && line.isEmpty) then none else some (side, title, map)
  | _, _ => none

/-- The tier that a name asks for; white space around the name does not count. -/
def read (t : Text) : Except SymbolMap.Fault TierRequest :=
  let name := Text.trim t
  if name == "Phone Alignment".toList then .ok .alignment
  else match sideBefore " CV" name with
  | some side => .ok (.soundClasses side)
  | none => match sideBefore " Stress" name with
  | some side => .ok (.stress side)
  | none => match sideBefore " Syllabification" name with
  | some side => .ok (.syllabification side)
  | none => match coverParts? name with
  | some (side, title, map) => (SymbolMap.read (Text.trim map)).map (.cover side (Text.trim title))
  | none => .ok (.stored (TierName.read name))

/-- Whether a tier is derived rather than stored. -/
def isDerived : TierRequest → Bool
  | stored _ => false
  | _ => true

/-- The title of a tier in reports. -/
def title (request : TierRequest) (name : Text) : Text :=
  match request with
  | cover _ title _ => title
  | _ => Text.trim name

/-- A derived tier of an object. -/
def render (request : TierRequest) (o : SearchObject) : Option Text :=
  match request with
  | stored _ => none
  | alignment => some (o.alignment.render (o.transcription .target) (o.transcription .actual))
  | soundClasses side => some (SymbolMap.soundClasses.render (o.transcription side))
  | stress side => some (Transcription.stressPattern (o.transcription side))
  | syllabification side => some (Transcription.syllabified (o.transcription side))
  | cover side _ symbols => some (symbols.render (o.transcription side))

end TierRequest

end PhoneticSearch
