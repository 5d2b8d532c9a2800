import PhoneticSearch.Text.Blank

/-!
# Cursors

Where a reader of expressions stands: the text that is still to be read, and the
number of characters in front of it.
-/

namespace PhoneticSearch

/-- The text still to be read, and the number of characters in front of it. -/
structure Cursor where
  offset : Nat
  rest : Text

namespace Cursor

/-- The cursor at the start of a text. -/
def start (t : Text) : Cursor := ⟨0, t⟩

/-- The cursor after some characters. -/
def skip (cur : Cursor) (count : Nat) : Cursor := ⟨cur.offset + count, cur.rest.drop count⟩

/-- The cursor after white space. -/
def skipBlank (cur : Cursor) : Cursor := cur.skip (cur.rest.takeWhile isBlank).length

end Cursor

end PhoneticSearch
