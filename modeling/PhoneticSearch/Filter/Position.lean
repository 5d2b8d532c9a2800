import PhoneticSearch.Corpus.SearchObject
import PhoneticSearch.Filter.Basic
import PhoneticSearch.Json.Decode

/-!
# Filters by position

Words of a group and groups of a record are selected by where they stand: alone,
first, in the middle or last.
-/

namespace PhoneticSearch

/-- The positions that are accepted. -/
structure PositionFlags where
  singleton : Bool := true
  initial : Bool := true
  medial : Bool := true
  final : Bool := true
deriving DecidableEq

namespace PositionFlags

/-- Whether a position is accepted. -/
def allows (flags : PositionFlags) : Position → Bool
  | .singleton => flags.singleton
  | .initial => flags.initial
  | .medial => flags.medial
  | .final => flags.final

/-- Whether every position is accepted. -/
def allowsAll (flags : PositionFlags) : Bool :=
  flags.singleton && flags.initial && flags.medial && flags.final

/-- The parameters of a filter with flags, whose names start with a letter. -/
def parameters (flags : PositionFlags) (filter : Text) (letter noun : String) : List Parameter :=
  [.ofBool filter (letter ++ "Singleton") ("Singleton " ++ noun) flags.singleton,
   .ofBool filter (letter ++ "Initial") "Initial" flags.initial,
   .ofBool filter (letter ++ "Medial") "Medial" flags.medial,
   .ofBool filter (letter ++ "Final") "Final" flags.final]

/-- Decodes a record with all its fields optional. -/
def decode : Decoder PositionFlags := fun j => do
  let row ← Row.ofJson ["singleton", "initial", "medial", "final"] j
  return {
    singleton := ← row.withDefault "singleton" .bool true
    initial := ← row.withDefault "initial" .bool true
    medial := ← row.withDefault "medial" .bool true
    final := ← row.withDefault "final" .bool true }

/-- The items at accepted positions, each with its number and its position. -/
def select {α : Type} (flags : PositionFlags) (items : List α) : List (Nat × Position × α) :=
  (items.zipIdx.map fun (x, i) => (i, Position.of i items.length, x)).filter fun (_, p, _) =>
    flags.allows p

end PositionFlags

/-- A filter of the words of a group. -/
structure WordFilter where
  id : Text
  flags : PositionFlags
  /-- Whether words are searched at all. -/
  searchByWord : Bool
  state : FilterState := {}

namespace WordFilter

/-- Whether a filter takes part in a query. -/
def inUse (f : WordFilter) : Bool := f.state.enabled && f.searchByWord

/-- The words at accepted positions, each with its number and its position. -/
def select (f : WordFilter) (words : List Word) : List (Nat × Position × Word) :=
  f.flags.select words

/-- The parameters of a filter. -/
def parameters (f : WordFilter) : List Parameter :=
  .ofBool f.id "searchByWord" "Search by word" f.searchByWord ::
    f.flags.parameters f.id "w" "words"

end WordFilter

/-- A filter of the groups of a record. -/
structure GroupFilter where
  id : Text
  flags : PositionFlags
  state : FilterState := {}

namespace GroupFilter

/-- Whether a filter takes part in a query. -/
def inUse (f : GroupFilter) : Bool := f.state.enabled && !f.flags.allowsAll

/-- The groups at accepted positions, each with its number and its position; all
groups if the filter is not in use. -/
def select (f : GroupFilter) (r : Record) : List (Nat × Position × GroupView) :=
  (if f.inUse then f.flags else {}).select r.groupViews

/-- The parameters of a filter. -/
def parameters (f : GroupFilter) : List Parameter := f.flags.parameters f.id "g" "groups"

end GroupFilter

end PhoneticSearch
