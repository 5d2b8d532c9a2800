import PhoneticSearch.Text.Ranges

/-!
# Sets of characters

A `CharSet` is a set of characters by their numbers: ranges in order, none of which
touches the next, so that sets with the same members are equal.  `union`,
`intersection`, `difference` and `complement` keep that form.
-/

namespace PhoneticSearch

/-- A set of characters, as ranges of numbers in order with gaps between them. -/
structure CharSet where
  ranges : List (Nat × Nat)
deriving DecidableEq

namespace CharSet

/-- The greatest number of a character. -/
def last : Nat := 0x10FFFF

/-- The number of the next character; numbers from `D800` to `DFFF` are of none. -/
def next (n : Nat) : Nat := if n = 0xD7FF then 0xE000 else n + 1

/-- The number of the character before. -/
def previous (n : Nat) : Nat := if n = 0xE000 then 0xD7FF else n - 1

/-- The set without members. -/
def empty : CharSet := ⟨[]⟩

/-- The set of all characters. -/
def all : CharSet := ⟨[(0, last)]⟩

/-- Ranges in order of their starts, behind one that may reach into them, with those
that touch made one. -/
def merge (current : Nat × Nat) : List (Nat × Nat) → List (Nat × Nat)
  | [] => [current]
  | r :: rest =>
    if r.1 ≤ current.2 + 1 then merge (current.1, max current.2 r.2) rest
    else current :: merge r rest

/-- The set of the numbers in some ranges. -/
def ofRanges (ranges : List (Nat × Nat)) : CharSet :=
  match ranges.mergeSort fun a b => decide (a.1 ≤ b.1) with
  | [] => empty
  | r :: rest => ⟨merge r rest⟩

/-- The set of a written table. -/
def ofTable (table : List String) : CharSet := ofRanges (Ranges.read table)

/-- The set of the characters from `first` to `last`. -/
def range (first last : Char) : CharSet := ofRanges [(first.toNat, last.toNat)]

/-- The set of some characters. -/
def ofChars (cs : List Char) : CharSet := ofRanges (cs.map fun c => (c.toNat, c.toNat))

/-- The set of one character. -/
def single (c : Char) : CharSet := ⟨[(c.toNat, c.toNat)]⟩

/-- Whether a number is in one of some ranges in order. -/
def reaches (n : Nat) : List (Nat × Nat) → Bool
  | [] => false
  | (first, last) :: rest => if n ≤ last then first ≤ n else reaches n rest

/-- Whether a set has the character with a number. -/
def has (s : CharSet) (n : Nat) : Bool := reaches n s.ranges

/-- Whether a set has a character. -/
def contains (s : CharSet) (c : Char) : Bool := s.has c.toNat

/-- Whether a set has no members. -/
def isEmpty (s : CharSet) : Bool := s.ranges.isEmpty

/-- Whether all members of a set are ASCII characters. -/
def isAscii (s : CharSet) : Bool := s.ranges.all (·.2 < 0x80)

/-- The member of a set that has only one. -/
def only? (s : CharSet) : Option Char :=
  match s.ranges with
  | [(first, last)] => if first = last then some (Char.ofNat first) else none
  | _ => none

/-- The members of both sets together. -/
def union (a b : CharSet) : CharSet := ofRanges (a.ranges ++ b.ranges)

/-- The gaps of ranges behind a number that is not in a gap.  Two ranges around the
numbers that are of no character touch without being one; their ends stand for the
gap between them. -/
def gapsAfter (stop : Nat) : List (Nat × Nat) → List (Nat × Nat)
  | [] => if stop < last then [(next stop, last)] else []
  | (first, stop') :: rest =>
    (min (next stop) (previous first), max (next stop) (previous first)) ::
      gapsAfter stop' rest

/-- The characters that a set does not have. -/
def complement (s : CharSet) : CharSet :=
  match s.ranges with
  | [] => all
  | (first, stop) :: rest =>
    ⟨(if 0 < first then [(0, previous first)] else []) ++ gapsAfter stop rest⟩

/-- The part of a range in some ranges in order. -/
def common (r : Nat × Nat) (ranges : List (Nat × Nat)) : List (Nat × Nat) :=
  ((ranges.dropWhile (·.2 < r.1)).takeWhile (·.1 ≤ r.2)).map fun (first, last) =>
    (max first r.1, min last r.2)

/-- The members that both sets have. -/
def intersection (a b : CharSet) : CharSet := ⟨a.ranges.flatMap (common · b.ranges)⟩

/-- What is left of a range without some ranges in order. -/
def without : Nat × Nat → List (Nat × Nat) → List (Nat × Nat)
  | r, [] => [r]
  | r, (first, stop) :: rest =>
    if stop < r.1 then without r rest
    else if r.2 < first then [r]
    else (if r.1 < first then [(r.1, previous first)] else []) ++
      if stop < r.2 then without (next stop, r.2) rest else []

/-- The members of the first set that the second one does not have. -/
def difference (a b : CharSet) : CharSet := ⟨a.ranges.flatMap (without · b.ranges)⟩

/-- The members that only one of the sets has. -/
def symmetricDifference (a b : CharSet) : CharSet :=
  (a.union b).difference (a.intersection b)

@[simp] theorem contains_empty (c : Char) : empty.contains c = false := rfl

theorem contains_single {c d : Char} : (single c).contains d = true ↔ d = c := by
  simp only [contains, has, single, reaches]
  constructor
  · intro h
    split at h
    · exact Char.toNat_inj.mp (Nat.le_antisymm ‹_› (by simpa using h))
    · cases h
  · rintro rfl
    simp

end CharSet

end PhoneticSearch
