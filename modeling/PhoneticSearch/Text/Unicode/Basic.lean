import PhoneticSearch.Text.CharSet

/-!
# Named sets of characters

A property of characters is written as a table of ranges under its names.  Names
are compared without regard to case, spaces, hyphens and underscores, and without
the word "is" in front.
-/

namespace PhoneticSearch.Unicode

/-- A set of characters under its names, which are normalized. -/
structure NamedSet where
  names : List String
  table : List String

/-- The small letter of a capital letter, nothing for a character that names are
compared without. -/
def significant (c : Char) : Option Char :=
  if c == ' ' || c == '_' || c == '-' || 0x80 ≤ c.toNat then none
  else some (Text.asciiLower c)

/-- A name as names are compared.  The word "is" in front does not count, but the
name of the other characters, a lone c, keeps it. -/
def normalize (name : Text) : String :=
  match name.take 2 |>.map Text.asciiLower with
  | ['i', 's'] =>
    match (name.drop 2).filterMap significant with
    | ['c'] => "isc"
    | rest => String.ofList rest
  | _ => String.ofList (name.filterMap significant)

/-- The set with a normalized name. -/
def find? (sets : List NamedSet) (name : String) : Option NamedSet :=
  sets.find? (·.names.contains name)

end PhoneticSearch.Unicode
