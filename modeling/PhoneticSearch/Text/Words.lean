import PhoneticSearch.Text.Blank

/-!
# The words of a text

A word is a longest stretch of characters that are not white space.  `Text.words`
lists the words of a text in order, each with the byte offset it starts at.
-/

namespace PhoneticSearch.Text

/-- The words of the text `pending.reverse ++ rest`, where `pending` holds the
characters of a word that has begun, last first, and starts at byte `start`. -/
def wordsFrom (start : Nat) (pending : Text) : (rest : Text) → List (Nat × Text)
  | [] => if pending.isEmpty then [] else [(start, pending.reverse)]
  | c :: rest =>
    if isBlank c then
      (if pending.isEmpty then [] else [(start, pending.reverse)]) ++
        wordsFrom (start + size pending + c.utf8Size) [] rest
    else wordsFrom start (c :: pending) rest

/-- The words of a text with their byte offsets. -/
def words (t : Text) : List (Nat × Text) := wordsFrom 0 [] t

end PhoneticSearch.Text
