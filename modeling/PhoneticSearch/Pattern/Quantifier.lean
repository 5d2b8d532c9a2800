/-!
# Quantifiers

How often an item of a pattern may follow itself.
-/

namespace PhoneticSearch

/-- How often an item is repeated. -/
inductive Quantifier where
  /-- At most once. -/
  | optional
  /-- Any number of times. -/
  | many
  /-- At least once. -/
  | some
deriving DecidableEq

namespace Quantifier

/-- The quantifier that a character is. -/
def ofChar? : Char → Option Quantifier
  | '?' => .some .optional
  | '*' => .some .many
  | '+' => .some .some
  | _ => .none

/-- The least number of repetitions. -/
def least : Quantifier → Nat
  | optional => 0
  | many => 0
  | some => 1

/-- The greatest number of repetitions, if there is one. -/
def greatest : Quantifier → Option Nat
  | optional => .some 1
  | many => .none
  | some => .none

/-- Whether one more repetition may follow a number of them. -/
def allowsAfter (q : Quantifier) (count : Nat) : Bool :=
  match q.greatest with
  | .some n => count < n
  | .none => true

end Quantifier

end PhoneticSearch
