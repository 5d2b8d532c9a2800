import PhoneticSearch.Pattern.Regex.Class

/-!
# Places

A place lies between two characters of a text, or at an end of it.  A `Place` is a
test that it may pass: being an end of the text or of a line, or lying at the edge
of a word.
-/

namespace PhoneticSearch.Regex

/-- How a place lies to the words around it. -/
inductive WordTest where
  | boundary
  | notBoundary
  | start
  | stop
  /-- No character of a word is before the place. -/
  | startHalf
  /-- No character of a word is after the place. -/
  | stopHalf
deriving DecidableEq

/-- Whether a place passes, given which of its neighbours belong to words. -/
def WordTest.passes (before after : Bool) : WordTest → Bool
  | boundary => before != after
  | notBoundary => before == after
  | start => !before && after
  | stop => before && !after
  | startHalf => !before
  | stopHalf => !after

/-- A test of a place. -/
inductive Place where
  | startText
  | endText
  /-- The start of a line, where a carriage return may end the line before. -/
  | startLine (crlf : Bool)
  /-- The end of a line, which may be a carriage return. -/
  | endLine (crlf : Bool)
  /-- A test of the words around, which are those of all characters or of ASCII. -/
  | word (unicode : Bool) (test : WordTest)
deriving DecidableEq

/-- Whether the place between two characters passes a test; a character is missing at
an end of the text. -/
def Place.holds (before after : Option Char) : Place → Bool
  | startText => before.isNone
  | endText => after.isNone
  | startLine crlf =>
    before.isNone || before == some '\n' || crlf && before == some '\r' && after != some '\n'
  | endLine crlf =>
    after.isNone ||
      if crlf then after == some '\r' || after == some '\n' && before != some '\r'
      else after == some '\n'
  | word unicode test =>
    test.passes (before.any (isWordChar unicode)) (after.any (isWordChar unicode))

end PhoneticSearch.Regex
