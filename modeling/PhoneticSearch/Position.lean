/-!
# Positions in a sequence

Where an item stands among the words of a group, the groups of a record or the
syllables of a word.
-/

namespace PhoneticSearch

/-- The position of an item in its sequence. -/
inductive Position where
  /-- The only item. -/
  | singleton
  /-- The first of several. -/
  | initial
  | medial
  /-- The last of several. -/
  | final
deriving DecidableEq

namespace Position

/-- The position of the item with an index among `count` items. -/
def of (index count : Nat) : Position :=
  if count ≤ 1 then singleton
  else if index = 0 then initial
  else if index + 1 = count then final
  else medial

/-- The name of a position. -/
def label : Position → String
  | singleton => "Singleton"
  | initial => "Initial"
  | medial => "Medial"
  | final => "Final"

end Position

end PhoneticSearch
