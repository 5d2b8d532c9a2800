import PhoneticSearch.Text.Basic

/-!
# Sets of characters written as ranges

The tables of character properties are lines of hexadecimal ranges with single
spaces between them, such as `30-39 41-5A 5F`.  `Ranges.read` takes the lines apart
and `Ranges.member` asks whether a character is in one of the ranges.
-/

namespace PhoneticSearch

namespace Ranges

/-- The value of a hexadecimal digit. -/
def digit? (c : Char) : Option Nat :=
  if '0' ≤ c ∧ c ≤ '9' then some (c.toNat - '0'.toNat)
  else if 'A' ≤ c ∧ c ≤ 'F' then some (c.toNat - 'A'.toNat + 10)
  else if 'a' ≤ c ∧ c ≤ 'f' then some (c.toNat - 'a'.toNat + 10)
  else none

/-- The value of a hexadecimal number; characters that are no digits are passed
over. -/
def hex (t : Text) : Nat :=
  t.foldl (fun n c => match digit? c with | some d => 16 * n + d | none => n) 0

/-- The range `first-last`, or the range of the one character that is written. -/
def readOne (t : Text) : Nat × Nat :=
  match Text.cutAt '-' t with
  | some (first, last) => (hex first, hex last)
  | none => (hex t, hex t)

/-- The ranges of a written table, line by line. -/
def read (table : List String) : List (Nat × Nat) :=
  table.flatMap fun line => (line.toList.splitOn ' ').map readOne

/-- Whether a character lies in one of the ranges. -/
def covers (ranges : List (Nat × Nat)) (c : Char) : Bool :=
  ranges.any fun (first, last) => first ≤ c.toNat && c.toNat ≤ last

/-- Whether a character lies in one of the ranges of a written table. -/
def member (table : List String) (c : Char) : Bool := covers (read table) c

end Ranges

end PhoneticSearch
