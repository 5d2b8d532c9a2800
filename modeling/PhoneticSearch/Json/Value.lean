import PhoneticSearch.Text.Basic

/-!
# JSON values

A JSON value as it stands in a document: the fields of an object keep their
order and may repeat a name.  Numbers are kept only as far as this library uses
them, as counts that fit a machine word; a string whose escapes do not denote
characters has no text.
-/

namespace PhoneticSearch

/-- A JSON value. -/
inductive Json where
  | null
  | bool (value : Bool)
  /-- A number, with its value if it is a count. -/
  | number (count : Option Nat)
  /-- A string, with its text if every escape in it denotes a character. -/
  | string (text : Option Text)
  | array (items : List Json)
  | object (fields : List (Option Text × Json))

namespace Json

/-- The largest count that a number may stand for. -/
def maxCount : Nat := Nat.pow 2 64 - 1

mutual

/-- The value with one field for each name of an object, the last one given. -/
def settled : Json → Json
  | array items => array (settledItems items)
  | object fields => object (settledFields fields)
  | other => other

/-- Each value of a list settled. -/
def settledItems : List Json → List Json
  | [] => []
  | item :: rest => settled item :: settledItems rest

/-- The fields of an object, without those whose name is given again later. -/
def settledFields : List (Option Text × Json) → List (Option Text × Json)
  | [] => []
  | (name, value) :: rest =>
    if rest.any (·.1 == name) then settledFields rest
    else (name, settled value) :: settledFields rest

end

end Json

end PhoneticSearch
