import PhoneticSearch.Filter.Position

/-!
# Filters of syllables

The syllables of a word or a group are selected by their position and their stress.
-/

namespace PhoneticSearch

/-- The stresses that are accepted. -/
structure StressFlags where
  primary : Bool := true
  secondary : Bool := true
  unstressed : Bool := true
deriving DecidableEq

namespace StressFlags

/-- Whether a stress is accepted. -/
def allows (flags : StressFlags) : SyllableStress → Bool
  | .primary => flags.primary
  | .secondary => flags.secondary
  | .unstressed => flags.unstressed

/-- Decodes a record with all its fields optional. -/
def decode : Decoder StressFlags := fun j => do
  let row ← Row.ofJson ["primary", "secondary", "unstressed"] j
  return {
    primary := ← row.withDefault "primary" .bool true
    secondary := ← row.withDefault "secondary" .bool true
    unstressed := ← row.withDefault "unstressed" .bool true }

end StressFlags

/-- The syllables that are accepted. -/
structure SyllableFlags where
  positions : PositionFlags := {}
  stress : StressFlags := {}
deriving DecidableEq

/-- Decodes a record with all its fields optional. -/
def SyllableFlags.decode : Decoder SyllableFlags := fun j => do
  let row ← Row.ofJson ["positions", "stress"] j
  return {
    positions := ← row.withDefault "positions" PositionFlags.decode {}
    stress := ← row.withDefault "stress" StressFlags.decode {} }

/-- The syllables of a scope on one side, as search objects. -/
def Scope.syllables (scope : Scope) (side : Side) : List SyllableView :=
  match scope.elementSpan? side with
  | none => []
  | some span =>
    let found := Transcription.syllables ((scope.inGroup.transcription side).subsection span)
    found.zipIdx.map fun (s, index) =>
      { scope, side, index
        span := s.span.shift span.start
        position := .of index found.length
        stress := s.stress }

/-- A filter of syllables. -/
structure SyllableFilter where
  id : Text
  flags : SyllableFlags
  /-- Whether syllables are searched at all. -/
  searchBySyllable : Bool
  state : FilterState := {}

namespace SyllableFilter

/-- Whether a filter takes part in a query. -/
def inUse (f : SyllableFilter) : Bool := f.state.enabled && f.searchBySyllable

/-- Whether a syllable is accepted. -/
def accepts (f : SyllableFilter) (s : SyllableView) : Bool :=
  f.flags.positions.allows s.position && f.flags.stress.allows s.stress

/-- The accepted syllables of a scope on one side. -/
def select (f : SyllableFilter) (scope : Scope) (side : Side) : List SyllableView :=
  (scope.syllables side).filter f.accepts

/-- The parameters of a filter. -/
def parameters (f : SyllableFilter) : List Parameter :=
  .ofBool f.id "searchBySyllable" "Search by syllable" f.searchBySyllable ::
    f.flags.positions.parameters f.id "s" "syllables" ++
    [.ofBool f.id "sPrimary" "Primary stress" f.flags.stress.primary,
     .ofBool f.id "sSecondary" "Secondary stress" f.flags.stress.secondary,
     .ofBool f.id "sUnstressed" "Unstressed" f.flags.stress.unstressed]

end SyllableFilter

end PhoneticSearch
