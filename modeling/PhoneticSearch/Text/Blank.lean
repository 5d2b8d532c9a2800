import PhoneticSearch.Text.Basic

/-!
# White space

The characters with the Unicode property `White_Space`, and texts without the
white space at their ends.
-/

namespace PhoneticSearch

/-- White space: tab to carriage return, space, next line, no-break space, and
the spaces and line breaks of the higher blocks. -/
def isBlank (c : Char) : Bool :=
  let n := c.toNat
  (0x9 ≤ n && n ≤ 0xD) || n == 0x20 || n == 0x85 || n == 0xA0 || n == 0x1680 ||
    (0x2000 ≤ n && n ≤ 0x200A) || n == 0x2028 || n == 0x2029 || n == 0x202F || n == 0x205F ||
    n == 0x3000

namespace Text

/-- A text without the white space it starts with. -/
def trimStart (t : Text) : Text := t.dropWhile isBlank

/-- A text without the white space it ends with. -/
def trimEnd (t : Text) : Text := (t.reverse.dropWhile isBlank).reverse

/-- A text without the white space at its ends. -/
def trim (t : Text) : Text := trimEnd (trimStart t)

/-- The trimmed items of a list written with `separator` between them; items
that hold only white space are left out. -/
def items (separator : Char) (t : Text) : List Text :=
  ((t.splitOn separator).map trim).filter (!·.isEmpty)

end Text

end PhoneticSearch
