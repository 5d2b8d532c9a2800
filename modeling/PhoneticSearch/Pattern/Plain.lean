import PhoneticSearch.Pattern.Value
import PhoneticSearch.Text.CaseFold
import PhoneticSearch.Text.Lowercase

/-!
# Plain patterns

A plain pattern is a text that stands for itself.  A search takes the first
occurrence, goes on behind it, and compares characters by simple case folding where
case does not matter.  A whole text is compared with the lower-case forms of both.
-/

namespace PhoneticSearch

/-- A text to search for, and whether case matters. -/
structure Plain where
  needle : Text
  caseSensitive : Bool

namespace Plain

/-- Whether two characters count as the same. -/
def same (p : Plain) (a b : Char) : Bool :=
  if p.caseSensitive then a == b else foldEq a b

/-- Whether a text starts with another, as `same` compares characters. -/
def startsWith (same : Char → Char → Bool) : (start t : Text) → Bool
  | [], _ => true
  | _ :: _, [] => false
  | a :: start, c :: t => same a c && startsWith same start t

/-- The hits in a text that starts at byte `offset`, whose first `skip` characters
belong to the hit before. -/
def hitsFrom (p : Plain) : (offset skip : Nat) → Text → List Hit
  | _, _, [] => []
  | offset, skip + 1, c :: rest => p.hitsFrom (offset + c.utf8Size) skip rest
  | offset, 0, c :: rest =>
    if startsWith p.same p.needle (c :: rest) then
      let found := (c :: rest).take p.needle.length
      ⟨⟨offset, offset + Text.size found⟩, .text found⟩ ::
        p.hitsFrom (offset + c.utf8Size) (p.needle.length - 1) rest
    else p.hitsFrom (offset + c.utf8Size) 0 rest

/-- The hits in a text; the empty text is not searched for. -/
def find (p : Plain) (t : Text) : List Hit :=
  if p.needle.isEmpty then [] else p.hitsFrom 0 0 t

/-- Whether a text is the one that the pattern stands for. -/
def isWhole (p : Plain) (t : Text) : Bool :=
  if p.caseSensitive then t == p.needle else Text.lowercase t == Text.lowercase p.needle

end Plain

end PhoneticSearch
