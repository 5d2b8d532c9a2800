import PhoneticSearch.Text.CharSet

/-!
# Sets of characters as ranges of bytes

In UTF-8 a character takes from one to four bytes.  `CharSet.byteRanges` is a set of
characters as the sequences of ranges that their bytes lie in: a character belongs to
the set if its bytes lie, one by one, in the ranges of one of the sequences.
-/

namespace PhoneticSearch

/-- A range of bytes, its first and last one. -/
abbrev ByteRange := Nat × Nat

/-- The bytes of the character with a number. -/
def utf8Bytes (n : Nat) : List Nat :=
  if n < 0x80 then [n]
  else if n < 0x800 then [0xC0 + n / 0x40, 0x80 + n % 0x40]
  else if n < 0x10000 then [0xE0 + n / 0x1000, 0x80 + n / 0x40 % 0x40, 0x80 + n % 0x40]
  else [0xF0 + n / 0x40000, 0x80 + n / 0x1000 % 0x40, 0x80 + n / 0x40 % 0x40, 0x80 + n % 0x40]

/-- Where a range of numbers of which all have as many bytes is cut next, so that the
last bytes of each part run through all their values or the first bytes are the same.
The first number of the upper part is returned; `block` is the number of characters
that have all but their last bytes in common. -/
def cutAtBlock? (first last block : Nat) : Option Nat :=
  if first / block = last / block then none
  else if first % block ≠ 0 then some (first - first % block + block)
  else if last % block ≠ block - 1 then some (last - last % block)
  else none

/-- Where a range of numbers is cut next: by the number of bytes, and then by blocks. -/
def cut? (first last : Nat) : Option Nat :=
  match [0x80, 0x800, 0x10000].find? fun n => first < n && n ≤ last with
  | some n => some n
  | none => if last < 0x80 then none else [0x40, 0x1000, 0x40000].findSome? (cutAtBlock? first last)

/-- The sequences of ranges of the characters from `first` to `last`.  Not more than
ten cuts lead to any part. -/
def rangeBytes : (left : Nat) → (first last : Nat) → List (List ByteRange)
  | 0, _, _ => []
  | left + 1, first, last =>
    if last < first then []
    else if first < 0xE000 ∧ 0xD7FF < last then
      rangeBytes left first 0xD7FF ++ rangeBytes left 0xE000 last
    else match cut? first last with
      | some n => rangeBytes left first (n - 1) ++ rangeBytes left n last
      | none => [(utf8Bytes first).zip (utf8Bytes last)]

/-- The sequences of ranges of the bytes of a set's members, in order. -/
def CharSet.byteRanges (s : CharSet) : List (List ByteRange) :=
  s.ranges.flatMap fun (first, last) => rangeBytes 12 first last

end PhoneticSearch
