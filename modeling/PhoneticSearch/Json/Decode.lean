import PhoneticSearch.Json.Reader

/-!
# Decoding JSON values

A `Decoder` reads a value of a type off a JSON value, or refuses it.  A record is
written as an object, whose unknown fields are passed over and whose known
fields are given at most once, or as an array of its fields in order.  A field
with a default may be left out, in an array only at the end.
-/

namespace PhoneticSearch

/-- A reader of a type off JSON values. -/
abbrev Decoder (α : Type) := Json → Option α

namespace Decoder

/-- A string as a text. -/
def text : Decoder Text
  | .string t => t
  | _ => none

/-- A truth value. -/
def bool : Decoder Bool
  | .bool b => some b
  | _ => none

/-- A count or an index. -/
def count : Decoder Nat
  | .number n => n
  | _ => none

/-- A value or nothing, which is written as null. -/
def optional {α : Type} (d : Decoder α) : Decoder (Option α)
  | .null => some none
  | j => (d j).map some

/-- The items of an array. -/
def list {α : Type} (d : Decoder α) : Decoder (List α)
  | .array items => items.mapM d
  | _ => none

/-- The two items of an array. -/
def pair {α β : Type} (a : Decoder α) (b : Decoder β) : Decoder (α × β)
  | .array [x, y] => do return (← a x, ← b y)
  | _ => none

/-- The entries of an object under their names, in order; a name given twice
keeps its last value at its last place. -/
def entries {α : Type} (d : Decoder α) : Decoder (List (Text × α))
  | .object fields => do
    let entries ← fields.mapM fun (name, value) => do return (← name, ← d value)
    return entries.foldl (fun kept e => kept.filter (·.1 != e.1) ++ [e]) []
  | _ => none

/-- One of some named values, given by its name, or as an object with the name
as its only field and nothing in it. -/
def choice {α : Type} (values : List (String × α)) : Decoder α
  | .string (some t) => values.lookup t.asString
  | .object [(some t, .null)] => values.lookup t.asString
  | _ => none

/-- A value read off a text. -/
def parsed {α : Type} (read : Text → Option α) : Decoder α := fun j => (text j).bind read

end Decoder

/-- The fields of a record that are given, under their names. -/
abbrev Row := List (String × Json)

namespace Row

/-- The fields of a record with the given field names. -/
def ofJson (names : List String) : Json → Option Row
  | .object fields => do
    let named ← fields.mapM fun (name, value) => do return ((← name).asString, value)
    let row := named.filter fun (name, _) => names.contains name
    if (row.map (·.1)).eraseDups.length = row.length then some row else none
  | .array items => if items.length ≤ names.length then some (names.zip items) else none
  | _ => none

/-- A field that has to be given. -/
def required {α : Type} (row : Row) (name : String) (d : Decoder α) : Option α :=
  (row.lookup name).bind d

/-- A field that may be left out. -/
def withDefault {α : Type} (row : Row) (name : String) (d : Decoder α) (value : α) : Option α :=
  match row.lookup name with
  | some j => d j
  | none => some value

end Row

end PhoneticSearch
