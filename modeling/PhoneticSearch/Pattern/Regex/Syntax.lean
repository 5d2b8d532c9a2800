import PhoneticSearch.Text.Basic

/-!
# Written regular expressions

A regular expression as it is written: what its reader returns.  Nodes keep the
character offset they start at where a later fault may point at them.  What an
expression means depends on the flags that hold at each place; see
`Expression.meaning`.
-/

namespace PhoneticSearch.Regex

/-- A switch that a group or an item of its own turns on or off. -/
inductive Flag where
  | caseInsensitive
  | multiLine
  | dotMatchesNewLine
  | swapGreed
  | unicode
  | crlf
  | verbose
deriving DecidableEq

/-- The flag that a letter stands for. -/
def Flag.ofChar? : Char → Option Flag
  | 'i' => some caseInsensitive
  | 'm' => some multiLine
  | 's' => some dotMatchesNewLine
  | 'U' => some swapGreed
  | 'u' => some unicode
  | 'R' => some crlf
  | 'x' => some verbose
  | _ => none

/-- Flags that are set, and whether each is turned on. -/
abbrev FlagChanges := List (Flag × Bool)

/-- A test of a place between two characters. -/
inductive Assertion where
  | startLine
  | endLine
  | startText
  | endText
  | wordBoundary
  | notWordBoundary
  | wordStart
  | wordEnd
  | wordStartHalf
  | wordEndHalf
deriving DecidableEq

/-- A class that an escape of one letter stands for. -/
inductive EscapeClass where
  | digit
  | space
  | word
deriving DecidableEq

/-- The name of a class of characters. -/
inductive PropertyName where
  /-- A property, category or script. -/
  | name (name : Text)
  /-- A value of a property, or any other value of it. -/
  | value (property : Text) (differs : Bool) (value : Text)
deriving DecidableEq

/-- A character, and whether it is written as a byte of two digits. -/
structure Literal where
  char : Char
  isByte : Bool
deriving DecidableEq

/-- How two sets of a class are put together. -/
inductive SetOperation where
  | intersection
  | difference
  | symmetricDifference
deriving DecidableEq

mutual

/-- An item of a class in brackets. -/
inductive ClassItem where
  | literal (c : Literal)
  | range (first last : Literal)
  | ascii (negated : Bool) (name : String)
  | escape (negated : Bool) (kind : EscapeClass)
  | property (negated : Bool) (name : PropertyName)
  | bracketed (offset : Nat) (negated : Bool) (set : ClassSet)
  | union (offset : Nat) (items : List ClassItem)

/-- The set of a class in brackets. -/
inductive ClassSet where
  | item (item : ClassItem)
  | operation (offset : Nat) (op : SetOperation) (left right : ClassSet)

end

/-- A regular expression as it is written. -/
inductive Expression where
  | empty
  | flags (changes : FlagChanges)
  | literal (c : Literal)
  | dot
  | assertion (a : Assertion)
  | escape (negated : Bool) (kind : EscapeClass)
  | property (negated : Bool) (name : PropertyName)
  | bracketed (offset : Nat) (negated : Bool) (set : ClassSet)
  | repetition (offset : Nat) (least : Nat) (greatest : Option Nat) (greedy : Bool)
      (body : Expression)
  /-- A group in parentheses; what a captured one matches is told apart from the rest
  of a match. -/
  | group (offset : Nat) (captured : Bool) (changes : FlagChanges) (body : Expression)
  | alternation (offset : Nat) (branches : List Expression)
  | concat (offset : Nat) (items : List Expression)

/-- Why a text is no regular expression. -/
inductive Fault where
  | captureNameEmpty
  | captureNameInvalid
  | captureNameRepeated
  | captureNameUnclosed
  | classEscape
  | classRange
  | classRangeEnd
  | classUnclosed
  | countEmpty
  | countTooLarge
  | countUnclosed
  | countsOutOfOrder
  | escapeUnclosed
  | escapeUnknown
  | backreference
  | hexDigit
  | hexEmpty
  | hexNoCharacter
  | flagUnknown
  | flagRepeated
  | flagsUnclosed
  | danglingNegation
  | repeatedNegation
  | groupUnclosed
  | groupUnopened
  | lookaround
  | nothingToRepeat
  | propertyLetter
  | wordBoundaryUnclosed
  | wordBoundaryUnknown
  | tooDeep
  /-- A class of characters that there is no table for. -/
  | unknownProperty
  /-- A class of all characters where only bytes may be meant. -/
  | unicodeNotAllowed
  /-- A byte that is no character. -/
  | notCharacters
  | tooLarge
deriving DecidableEq

/-- The message of a fault where faults are not located; only expressions that are too large are
told apart. -/
def Fault.message : Fault → String
  | tooLarge => "Compiled regex exceeds size limit of 10485760 bytes."
  | _ => "invalid regular expression"

end PhoneticSearch.Regex
