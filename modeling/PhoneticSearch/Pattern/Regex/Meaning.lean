import PhoneticSearch.Pattern.Regex.Pattern
import PhoneticSearch.Text.CaseFold

/-!
# What a regular expression means

`Expression.meaning` resolves the flags and the classes of an expression.  Flags
hold from where they are set to the end of the group around them, through the
branches that follow as well.  A set is closed under case before it is negated.

Without the unicode flag an expression is about bytes.  Since only whole characters
are matched, sets are then sets of ASCII characters, and what could match part of a
character is a fault.
-/

namespace PhoneticSearch.Regex

/-- The flags that hold at a place. -/
structure Flags where
  caseInsensitive : Bool
  multiLine : Bool := false
  dotMatchesNewLine : Bool := false
  swapGreed : Bool := false
  unicode : Bool := true
  crlf : Bool := false

namespace Flags

/-- The flags after one of them is turned on or off. -/
def set (f : Flags) (flag : Flag) (on : Bool) : Flags :=
  match flag with
  | .caseInsensitive => { f with caseInsensitive := on }
  | .multiLine => { f with multiLine := on }
  | .dotMatchesNewLine => { f with dotMatchesNewLine := on }
  | .swapGreed => { f with swapGreed := on }
  | .unicode => { f with unicode := on }
  | .crlf => { f with crlf := on }
  | .verbose => f

/-- The flags after some changes. -/
def change (f : Flags) (changes : FlagChanges) : Flags :=
  changes.foldl (fun f (flag, on) => f.set flag on) f

/-- A set closed under case, where case does not matter. -/
def close (f : Flags) (s : CharSet) : CharSet :=
  if !f.caseInsensitive then s
  else if f.unicode then s.closeCase
  else s.closeAsciiCase

/-- A set, or its complement, which is no set of ASCII characters. -/
def negate (f : Flags) (negated : Bool) (s : CharSet) : Except Fault CharSet :=
  if !negated then .ok s
  else if f.unicode then .ok s.complement
  else .error .notCharacters

end Flags

/-! ### Classes -/

/-- The set of a class with a name; to negate a class of other values is to take the
value itself. -/
def propertySet (f : Flags) (negated : Bool) (name : PropertyName) : Except Fault CharSet :=
  if !f.unicode then .error .unicodeNotAllowed
  else match name.set? with
    | some s => f.negate (negated != name.differs) (f.close s)
    | none => .error .unknownProperty

/-- The set of a class that an escape of one letter stands for. -/
def escapeSet (f : Flags) (negated : Bool) (kind : EscapeClass) : Except Fault CharSet :=
  f.negate negated (kind.members f.unicode)

/-- The character of a literal, which is no byte of a longer character. -/
def Literal.value (f : Flags) (c : Literal) : Except Fault Char :=
  if !f.unicode && c.isByte && 0x80 ≤ c.char.toNat then .error .notCharacters else .ok c.char

/-- The character of a literal in a class. -/
def Literal.member (f : Flags) (c : Literal) : Except Fault Char := do
  let c ← c.value f
  if !f.unicode && 0x80 ≤ c.toNat then .error .unicodeNotAllowed else .ok c

/-- Two sets put together. -/
def SetOperation.apply : SetOperation → CharSet → CharSet → CharSet
  | intersection => CharSet.intersection
  | difference => CharSet.difference
  | symmetricDifference => CharSet.symmetricDifference

mutual

/-- The members of an item of a class. -/
def ClassItem.set (f : Flags) : ClassItem → Except Fault CharSet
  | .literal c => do return .single (← c.member f)
  | .range first last => do return .range (← first.member f) (← last.member f)
  | .ascii negated name => f.negate negated (f.close (asciiSet name))
  | .escape negated kind => escapeSet f negated kind
  | .property negated name => propertySet f negated name
  | .bracketed _ negated set => do f.negate negated (f.close (← set.set f))
  | .union _ items => unionSet f items

/-- The members of one of the items. -/
def unionSet (f : Flags) : List ClassItem → Except Fault CharSet
  | [] => .ok .empty
  | item :: rest => do return (← item.set f).union (← unionSet f rest)

/-- The members of the set of a class. -/
def ClassSet.set (f : Flags) : ClassSet → Except Fault CharSet
  | .item item => item.set f
  | .operation _ op left right => do
    return op.apply (f.close (← left.set f)) (f.close (← right.set f))

end

/-! ### Places and characters -/

/-- The test of a place under some flags. -/
def Assertion.place (f : Flags) : Assertion → Place
  | startText => .startText
  | endText => .endText
  | startLine => if f.multiLine then .startLine f.crlf else .startText
  | endLine => if f.multiLine then .endLine f.crlf else .endText
  | wordBoundary => .word f.unicode .boundary
  | notWordBoundary => .word f.unicode .notBoundary
  | wordStart => .word f.unicode .start
  | wordEnd => .word f.unicode .stop
  | wordStartHalf => .word f.unicode .startHalf
  | wordEndHalf => .word f.unicode .stopHalf

/-- The pattern of a character. -/
def literalPattern (f : Flags) (c : Char) : Pattern :=
  if !f.caseInsensitive then .literal [c]
  else if f.unicode then .ofSet (.ofChars (caseVariants c))
  else .ofSet (.ofChars [Text.asciiLower c, Text.asciiUpper c])

/-- The characters that a dot stands for. -/
def dotSet (f : Flags) : CharSet :=
  if f.dotMatchesNewLine then .all
  else (CharSet.ofChars (if f.crlf then ['\n', '\r'] else ['\n'])).complement

/-! ### Expressions -/

mutual

/-- The pattern of an expression under the flags that hold in front of it, and the
flags that hold behind it. -/
def Expression.meaning (f : Flags) : Expression → Except Fault (Pattern × Flags)
  | .empty => .ok (.empty, f)
  | .flags changes => .ok (.empty, f.change changes)
  | .literal c => do return (literalPattern f (← c.value f), f)
  | .dot => if f.unicode then .ok (.ofSet (dotSet f), f) else .error .notCharacters
  | .assertion a => .ok (.place (a.place f), f)
  | .escape negated kind => do return (.ofSet (← escapeSet f negated kind), f)
  | .property negated name => do return (.ofSet (← propertySet f negated name), f)
  | .bracketed _ negated set => do
    return (.ofSet (← f.negate negated (f.close (← set.set f))), f)
  | .repetition _ least greatest greedy body => do
    let (body, f) ← body.meaning f
    return (body.times least greatest (greedy != f.swapGreed), f)
  | .group offset captured changes body => do
    let (body, _) ← body.meaning (f.change changes)
    return (if captured then .group offset body else body, f)
  | .alternation _ branches => do
    let (ps, f) ← meanings f branches
    return (.oneOf ps, f)
  | .concat _ items => do
    let (ps, f) ← meanings f items
    return (.join ps, f)

/-- The patterns of expressions, each of which takes over the flags of the one in
front. -/
def meanings (f : Flags) : List Expression → Except Fault (List Pattern × Flags)
  | [] => .ok ([], f)
  | e :: rest => do
    let (p, f) ← e.meaning f
    let (ps, f) ← meanings f rest
    return (p :: ps, f)

end

end PhoneticSearch.Regex
