import PhoneticSearch.Pattern.Cursor
import PhoneticSearch.Pattern.Located
import PhoneticSearch.Pattern.Regex.Syntax
import PhoneticSearch.Text.Letter
import PhoneticSearch.Text.Ranges

/-!
# Reading regular expressions

The reader goes over an expression once, from left to right, with the groups that
are open on a stack.  A fault points at the character where the smallest piece
that cannot be read starts.  In verbose mode white space and comments between the
pieces are passed over.
-/

namespace PhoneticSearch.Regex

/-- What a reader returns, or a fault. -/
abbrev Reading := Except (Located Fault)

/-! ### Moving on -/

/-- The number of characters at the front of a text that verbose mode passes over:
white space, and comments up to the end of their line. -/
def insignificant (inComment : Bool) : Text → Nat
  | [] => 0
  | c :: rest =>
    if inComment then 1 + insignificant (c != '\n') rest
    else if isBlank c then 1 + insignificant false rest
    else if c = '#' then 1 + insignificant true rest
    else 0

/-- The cursor after what verbose mode passes over. -/
def pass (verbose : Bool) (cur : Cursor) : Cursor :=
  if verbose then cur.skip (insignificant false cur.rest) else cur

/-- The cursor after one character and what is passed over behind it. -/
def next (verbose : Bool) (cur : Cursor) : Cursor := pass verbose (cur.skip 1)

/-- The first character of the text after what verbose mode looks past: white space
and one number sign. -/
def peekFrom (t : Text) (inComment : Bool) : Text → Option Char
  | [] => t.head?
  | c :: rest =>
    if isBlank c then peekFrom t inComment rest
    else if !inComment && c == '#' then peekFrom t true rest
    else some c

/-- The character after the one under the cursor. -/
def peekAfter (verbose : Bool) (cur : Cursor) : Option Char :=
  let t := cur.rest.drop 1
  if verbose then peekFrom t false t else t.head?

/-- Fails at a cursor. -/
def failAt {α : Type} (cur : Cursor) (fault : Fault) : Reading α := .error (.found cur.offset fault)

/-! ### Numbers -/

/-- The digits under the cursor, with what is passed over between them. -/
def readDigits (verbose : Bool) : (left : Nat) → Cursor → Text × Cursor
  | 0, cur => ([], cur)
  | left + 1, cur =>
    match cur.rest with
    | c :: _ =>
      if c.isDigit then
        let (digits, cur) := readDigits verbose left (next verbose cur)
        (c :: digits, cur)
      else ([], cur)
    | [] => ([], cur)

/-- The cursor after white space and what is passed over behind it. -/
def skipBlanks (verbose : Bool) : (left : Nat) → Cursor → Cursor
  | 0, cur => cur
  | left + 1, cur =>
    if cur.rest.head?.any isBlank then skipBlanks verbose left (next verbose cur) else cur

/-- Counts are below this bound. -/
def countBound : Nat := Nat.pow 2 32

/-- The value of decimal digits. -/
def decimal (digits : Text) : Nat := digits.foldl (fun n c => 10 * n + (c.toNat - '0'.toNat)) 0

/-- A count with white space around it, as a result of its own, so that a missing
count may be excused; the cursor moves on in any case. -/
def readCount (verbose : Bool) (cur : Cursor) : Reading Nat × Cursor :=
  let start := cur.skipBlank
  let (digits, after) := readDigits verbose start.rest.length start
  let behind := skipBlanks verbose after.rest.length after
  if digits.isEmpty then (failAt start .countEmpty, behind)
  else if decimal digits < countBound then (.ok (decimal digits), behind)
  else (failAt start .countTooLarge, behind)

/-! ### Escapes -/

/-- The character with a number, if there is one. -/
def charOf? (n : Nat) : Option Char :=
  if n < 0xD800 ∨ (0xDFFF < n ∧ n < 0x110000) then some (Char.ofNat n) else none

/-- The value of hexadecimal digits. -/
def hexValue (digits : Text) : Nat :=
  digits.foldl (fun n c => 16 * n + (Ranges.digit? c).getD 0) 0

/-- A number of hexadecimal digits, the first of them under the cursor. -/
def readHexDigits (verbose : Bool) : (left : Nat) → Cursor → Reading (Text × Cursor)
  | 0, cur => .ok ([], cur)
  | left + 1, cur =>
    match cur.rest with
    | [] => failAt cur .escapeUnclosed
    | c :: _ =>
      if (Ranges.digit? c).isNone then failAt cur .hexDigit
      else do
        let (digits, cur) ← readHexDigits verbose left (next verbose cur)
        return (c :: digits, cur)

/-- Hexadecimal digits up to a closing brace, where `opening` stands at the brace
that opens them. -/
def readHexBraced (verbose : Bool) (opening : Cursor) :
    (left : Nat) → Cursor → Reading (Text × Cursor)
  | 0, _ => failAt opening .escapeUnclosed
  | left + 1, cur =>
    match cur.rest with
    | [] => failAt opening .escapeUnclosed
    | c :: _ =>
      if c = '\x7d' then .ok ([], cur)
      else if (Ranges.digit? c).isNone then failAt cur .hexDigit
      else do
        let (digits, cur) ← readHexBraced verbose opening left (next verbose cur)
        return (c :: digits, cur)

/-- A character given by its number, after the letter under the cursor that tells
how many digits there are without braces. -/
def readHex (verbose : Bool) (width : Nat) (letter : Cursor) : Reading (Literal × Cursor) :=
  let cur := next verbose letter
  match cur.rest with
  | [] => failAt cur .escapeUnclosed
  | '\x7b' :: _ => do
    let (digits, close) ← readHexBraced verbose cur cur.rest.length (next verbose cur)
    let after := next verbose close
    if digits.isEmpty then failAt cur .hexEmpty
    else match charOf? (hexValue digits) with
      | some c => .ok (⟨c, false⟩, after)
      | none => failAt (cur.skip 1) .hexNoCharacter
  | _ => do
    let (digits, after) ← readHexDigits verbose width cur
    match charOf? (hexValue digits) with
    | some c => .ok (⟨c, width == 2⟩, after)
    | none => failAt cur .hexNoCharacter

/-- A text cut at the first place where another starts. -/
def cutText (mark : Text) : Text → Option (Text × Text)
  | [] => none
  | c :: rest =>
    match Text.after? mark (c :: rest) with
    | some after => some ([], after)
    | none => (cutText mark rest).map fun (a, b) => (c :: a, b)

/-- The name of a class.  A property and its value have one of the signs `!=`, `:`
and `=` between them, of which the first stands for all other values. -/
def propertyName (name : Text) : PropertyName :=
  match cutText ['!', '='] name with
  | some (property, value) => .value property true value
  | none =>
    match (Text.cutAt ':' name).orElse fun _ => Text.cutAt '=' name with
    | some (property, value) => .value property false value
    | none => .name name

/-- The characters of a name up to a closing brace. -/
def readName (verbose : Bool) : (left : Nat) → Cursor → Reading (Text × Cursor)
  | 0, cur => failAt cur .escapeUnclosed
  | left + 1, cur =>
    match cur.rest with
    | [] => failAt cur .escapeUnclosed
    | c :: _ =>
      if c = '\x7d' then .ok ([], cur.skip 1)
      else do
        let (name, cur) ← readName verbose left (next verbose cur)
        return (c :: name, cur)

/-- The class with a name, after the letter under the cursor. -/
def readProperty (verbose : Bool) (letter : Cursor) : Reading (PropertyName × Cursor) :=
  let cur := next verbose letter
  match cur.rest with
  | [] => failAt cur .escapeUnclosed
  | '\x7b' :: _ => do
    let (name, cur) ← readName verbose cur.rest.length (next verbose cur)
    return (propertyName name, cur)
  | '\\' :: _ => failAt cur .propertyLetter
  | c :: _ => .ok (.name [c], next verbose cur)

/-- One piece of an expression. -/
inductive Piece where
  | literal (c : Literal)
  | dot
  | assertion (a : Assertion)
  | escape (negated : Bool) (kind : EscapeClass)
  | property (negated : Bool) (name : PropertyName)

/-- A piece as an expression. -/
def Piece.expression : Piece → Expression
  | literal c => .literal c
  | dot => .dot
  | assertion a => .assertion a
  | escape negated kind => .escape negated kind
  | property negated name => .property negated name

/-- The letters and hyphens under the cursor, with what is passed over between
them. -/
def readBoundaryName (verbose : Bool) : (left : Nat) → Cursor → Text × Cursor
  | 0, cur => ([], cur)
  | left + 1, cur =>
    match cur.rest with
    | c :: _ =>
      if c.isAlpha || c == '-' then
        let (name, cur) := readBoundaryName verbose left (next verbose cur)
        (c :: name, cur)
      else ([], cur)
    | [] => ([], cur)

/-- A word boundary, where `opening` stands at the backslash and the cursor behind
its letter; a name in braces tells which one. -/
def readBoundary (verbose : Bool) (opening cur : Cursor) : Reading (Assertion × Cursor) :=
  match cur.rest with
  | '\x7b' :: _ =>
    let inside := next verbose cur
    match inside.rest with
    | [] => failAt opening .escapeUnclosed
    | c :: _ =>
      if !(c.isAlpha || c == '-') then .ok (.wordBoundary, cur)
      else
        let (name, after) := readBoundaryName verbose inside.rest.length inside
        if after.rest.head? != some '\x7d' then failAt cur .wordBoundaryUnclosed
        else match name.asString with
          | "start" => .ok (.wordStart, after.skip 1)
          | "end" => .ok (.wordEnd, after.skip 1)
          | "start-half" => .ok (.wordStartHalf, after.skip 1)
          | "end-half" => .ok (.wordEndHalf, after.skip 1)
          | _ => failAt inside .wordBoundaryUnknown
  | _ => .ok (.wordBoundary, cur)

/-- Whether a character stands for itself after a backslash. -/
def isEscapable (c : Char) : Bool :=
  c.toNat < 0x80 && !c.isAlphanum && c != '<' && c != '>'

/-- An escape whose backslash is under the cursor. -/
def readEscape (verbose : Bool) (opening : Cursor) : Reading (Piece × Cursor) :=
  let letter := opening.skip 1
  let after := opening.skip 2
  match letter.rest with
  | [] => failAt opening .escapeUnclosed
  | c :: _ =>
    let literal (c : Char) : Reading (Piece × Cursor) := .ok (.literal ⟨c, false⟩, after)
    let assertion (a : Assertion) : Reading (Piece × Cursor) := .ok (.assertion a, after)
    let hex (width : Nat) : Reading (Piece × Cursor) :=
      (readHex verbose width letter).map fun (c, cur) => (.literal c, cur)
    let property (negated : Bool) : Reading (Piece × Cursor) :=
      (readProperty verbose letter).map fun (name, cur) => (.property negated name, cur)
    if c.isDigit then failAt opening .backreference
    else if isEscapable c then literal c
    else match c with
      | 'x' => hex 2
      | 'u' => hex 4
      | 'U' => hex 8
      | 'p' => property false
      | 'P' => property true
      | 'd' => .ok (.escape false .digit, after)
      | 'D' => .ok (.escape true .digit, after)
      | 's' => .ok (.escape false .space, after)
      | 'S' => .ok (.escape true .space, after)
      | 'w' => .ok (.escape false .word, after)
      | 'W' => .ok (.escape true .word, after)
      | 'a' => literal '\x07'
      | 'f' => literal '\x0c'
      | 't' => literal '\t'
      | 'n' => literal '\n'
      | 'r' => literal '\r'
      | 'v' => literal '\x0b'
      | 'A' => assertion .startText
      | 'z' => assertion .endText
      | 'b' => (readBoundary verbose opening after).map fun (a, cur) => (.assertion a, cur)
      | 'B' => assertion .notWordBoundary
      | '<' => assertion .wordStart
      | '>' => assertion .wordEnd
      | _ => failAt opening .escapeUnknown

/-! ### Classes in brackets -/

/-- The items that have been read of a set, last first, and where the first of them
starts. -/
structure OpenUnion where
  offset : Nat
  items : List ClassItem

/-- An item put behind the others. -/
def OpenUnion.push (u : OpenUnion) (offset : Nat) (item : ClassItem) : OpenUnion :=
  ⟨if u.items.isEmpty then offset else u.offset, item :: u.items⟩

/-- The set of the items. -/
def OpenUnion.item (u : OpenUnion) : ClassItem :=
  match u.items with
  | [item] => item
  | items => .union u.offset items.reverse

/-- A class in brackets that is open: the items in front of it, where it starts,
whether it is negated, and the left side of an operation that waits for its
right side. -/
structure OpenClass where
  parent : OpenUnion
  offset : Nat
  negated : Bool
  waiting : Option (Nat × SetOperation × ClassSet)

/-- Where a set starts. -/
def OpenUnion.start (u : OpenUnion) (pending : Option (Nat × SetOperation × ClassSet)) : Nat :=
  match pending with
  | some (offset, _, _) => offset
  | none => u.offset

/-- The set of a class that ends here. -/
def OpenClass.close (c : OpenClass) (u : OpenUnion) : ClassSet :=
  match c.waiting with
  | some (offset, op, left) => .operation offset op left (.item u.item)
  | none => .item u.item

/-- Puts hyphens at the start of a class among its items. -/
def readHyphens (verbose : Bool) (opening : Cursor) :
    (left : Nat) → OpenUnion → Cursor → Reading (OpenUnion × Cursor)
  | 0, u, cur => .ok (u, cur)
  | left + 1, u, cur =>
    match cur.rest with
    | '-' :: _ =>
      let after := next verbose cur
      if after.rest.isEmpty then failAt opening .classUnclosed
      else
        readHyphens verbose opening left (u.push cur.offset (.literal ⟨'-', false⟩)) after
    | _ => .ok (u, cur)

/-- The start of a class whose bracket is under the cursor: whether it is negated,
and the hyphens or the bracket that count as items of it. -/
def openClass (verbose : Bool) (opening : Cursor) : Reading (Bool × OpenUnion × Cursor) := do
  let cur := next verbose opening
  if cur.rest.isEmpty then failAt opening .classUnclosed
  else
    let negated := cur.rest.head? == some '^'
    let cur := if negated then next verbose cur else cur
    if cur.rest.isEmpty then failAt opening .classUnclosed
    else
      let (u, cur) ← readHyphens verbose opening cur.rest.length ⟨cur.offset, []⟩ cur
      if u.items.isEmpty && cur.rest.head? == some ']' then
        let after := next verbose cur
        if after.rest.isEmpty then failAt opening .classUnclosed
        else return (negated, u.push cur.offset (.literal ⟨']', false⟩), after)
      else return (negated, u, cur)

/-- The names of the classes of ASCII characters. -/
def asciiNames : List String :=
  ["alnum", "alpha", "ascii", "blank", "cntrl", "digit", "graph", "lower", "print", "punct",
   "space", "upper", "word", "xdigit"]

/-- A class of ASCII characters such as `[:alpha:]`, if there is one under the
cursor. -/
def asciiClass? (cur : Cursor) : Option (ClassItem × Cursor) := do
  let body ← Text.after? ['[', ':'] cur.rest
  let (negated, body) := match body with
    | '^' :: rest => (true, rest)
    | _ => (false, body)
  let name := body.takeWhile (· != ':')
  let after ← Text.after? [':', ']'] (body.drop name.length)
  if asciiNames.contains (Text.asString name) then
    some (.ascii negated (Text.asString name), cur.skip (cur.rest.length - after.length))
  else none

/-- A piece as an item of a class, where the piece starts at `offset`. -/
def classItem (offset : Nat) : Piece → Reading ClassItem
  | .literal c => .ok (.literal c)
  | .escape negated kind => .ok (.escape negated kind)
  | .property negated name => .ok (.property negated name)
  | _ => .error (.found offset .classEscape)

/-- A piece as an end of a range. -/
def rangeEnd (offset : Nat) : Piece → Reading Literal
  | .literal c => .ok c
  | _ => .error (.found offset .classRangeEnd)

/-- A character or an escape of a class. -/
def readClassPiece (verbose : Bool) (cur : Cursor) : Reading (Piece × Cursor) :=
  match cur.rest with
  | '\\' :: _ => readEscape verbose cur
  | c :: _ => .ok (.literal ⟨c, false⟩, cur.skip 1)
  | [] => failAt cur .classUnclosed

/-- A single item or a range of the class that was opened at `opening`. -/
def readRange (verbose : Bool) (opening : Nat) (cur : Cursor) : Reading (ClassItem × Cursor) := do
  let unclosed : Reading (ClassItem × Cursor) := .error (.found opening .classUnclosed)
  let (first, after) ← readClassPiece verbose cur
  let after := pass verbose after
  match after.rest with
  | [] => unclosed
  | c :: _ =>
    let behind := peekAfter verbose after
    if c != '-' || behind == some ']' || behind == some '-' then
      return (← classItem cur.offset first, after)
    else
      let second := next verbose after
      if second.rest.isEmpty then unclosed
      else
        let (last, after) ← readClassPiece verbose second
        let a ← rangeEnd cur.offset first
        let b ← rangeEnd second.offset last
        if a.char ≤ b.char then return (.range a b, after)
        else failAt cur .classRange

/-- The operation between two sets that is under the cursor. -/
def setOperation? : Text → Option SetOperation
  | '&' :: '&' :: _ => some .intersection
  | '-' :: '-' :: _ => some .difference
  | '~' :: '~' :: _ => some .symmetricDifference
  | _ => none

/-- The rest of a class, where `stack` holds the classes that are open, innermost
first, and `u` the items of the innermost one. -/
def readClassRest (verbose : Bool) :
    (left : Nat) → (stack : List OpenClass) → OpenUnion → Cursor → Reading (Expression × Cursor)
  | 0, _, _, cur => failAt cur .classUnclosed
  | _, [], _, cur => failAt cur .classUnclosed
  | left + 1, top :: below, u, cur =>
    let cur := pass verbose cur
    match cur.rest with
    | [] => .error (.found top.offset .classUnclosed)
    | '[' :: _ =>
      match asciiClass? cur with
      | some (item, after) =>
        readClassRest verbose left (top :: below) (u.push cur.offset item) after
      | none => do
        let (negated, inner, after) ← openClass verbose cur
        readClassRest verbose left (⟨u, cur.offset, negated, none⟩ :: top :: below) inner after
    | ']' :: _ =>
      let set := top.close u
      match below with
      | [] => .ok (.bracketed top.offset top.negated set, cur.skip 1)
      | _ =>
        readClassRest verbose left below
          (top.parent.push top.offset (.bracketed top.offset top.negated set)) (cur.skip 1)
    | _ =>
      match setOperation? cur.rest with
      | some op =>
        let waiting := (u.start top.waiting, op, top.close u)
        let after := cur.skip 2
        readClassRest verbose left (⟨top.parent, top.offset, top.negated, some waiting⟩ :: below)
          ⟨after.offset, []⟩ after
      | none => do
        let (item, after) ← readRange verbose top.offset cur
        readClassRest verbose left (top :: below) (u.push cur.offset item) after

/-- The class whose bracket is under the cursor. -/
def readClass (verbose : Bool) (cur : Cursor) : Reading (Expression × Cursor) := do
  let (negated, u, after) ← openClass verbose cur
  readClassRest verbose (after.rest.length + 1) [⟨⟨cur.offset, []⟩, cur.offset, negated, none⟩] u
    after

/-! ### Groups -/

/-- Whether a character may stand in the name of a group. -/
def isNameChar (isFirst : Bool) (c : Char) : Bool :=
  c == '_' || Ranges.member Letter.alphabetic c ||
    (!isFirst && (c == '.' || c == '[' || c == ']' || Ranges.member Letter.numeric c))

/-- The name of a group up to the angle bracket behind it. -/
def readGroupName (start : Nat) : (left : Nat) → Cursor → Reading (Text × Cursor)
  | 0, cur => failAt cur .captureNameUnclosed
  | left + 1, cur =>
    match cur.rest with
    | [] => failAt cur .captureNameUnclosed
    | c :: _ =>
      if c = '>' then .ok ([], cur)
      else if !isNameChar (cur.offset == start) c then failAt cur .captureNameInvalid
      else do
        let (name, cur) ← readGroupName start left (cur.skip 1)
        return (c :: name, cur)

/-- The flags under the cursor, up to a colon or a closing parenthesis; `seen` holds
those in front, `negation` where a minus sign stood, and `dangling` tells whether
it stands last. -/
def readFlags (seen : FlagChanges) (negation : Option Nat) (dangling : Bool) :
    (left : Nat) → Cursor → Reading (FlagChanges × Cursor)
  | 0, cur => failAt cur .flagsUnclosed
  | left + 1, cur =>
    match cur.rest with
    | [] => failAt cur .flagsUnclosed
    | c :: _ =>
      if c = ':' ∨ c = ')' then
        match dangling, negation with
        | true, some offset => .error (.found offset .danglingNegation)
        | _, _ => .ok (seen, cur)
      else
        let after := cur.skip 1
        if c = '-' then
          if negation.isSome then failAt cur .repeatedNegation
          else if after.rest.isEmpty then failAt after .flagsUnclosed
          else readFlags seen (some cur.offset) true left after
        else match Flag.ofChar? c with
          | none => failAt cur .flagUnknown
          | some f =>
            if seen.any (·.1 == f) then failAt cur .flagRepeated
            else if after.rest.isEmpty then failAt after .flagsUnclosed
            else readFlags (seen ++ [(f, negation.isNone)]) negation false left after

/-- What a parenthesis opens. -/
inductive Opening where
  /-- Flags for the rest of the group around them. -/
  | flags (changes : FlagChanges)
  /-- A group that is not captured, with the flags that hold in it. -/
  | group (changes : FlagChanges)
  /-- A group that is captured, and its name. -/
  | captured (name : Option Text)

/-- Whether a look-around assertion is under the cursor. -/
def isLookaround (t : Text) : Bool :=
  [['?', '='], ['?', '!'], ['?', '<', '='], ['?', '<', '!']].any fun mark =>
    (Text.after? mark t).isSome

/-- A group with a name, where the cursor stands behind the angle bracket. -/
def openNamed (names : List Text) (cur : Cursor) : Reading (Opening × Cursor) := do
  let (name, close) ← readGroupName cur.offset (cur.rest.length + 1) cur
  if name.isEmpty then failAt cur .captureNameEmpty
  else if names.contains name then failAt cur .captureNameRepeated
  else return (.captured name, close.skip 1)

/-- What the parenthesis under the cursor opens; `names` are the names of the groups
in front. -/
def openGroup (verbose : Bool) (names : List Text) (opening : Cursor) :
    Reading (Opening × Cursor) :=
  let cur := next verbose opening
  if isLookaround cur.rest then failAt opening .lookaround
  else match cur.rest with
    | '?' :: 'P' :: '<' :: _ => openNamed names (cur.skip 3)
    | '?' :: '<' :: _ => openNamed names (cur.skip 2)
    | '?' :: rest =>
      if rest.isEmpty then failAt opening .groupUnclosed
      else do
        let (changes, close) ← readFlags [] none false (rest.length + 1) (cur.skip 1)
        if close.rest.head? == some ':' then return (.group changes, close.skip 1)
        else if close.offset == cur.offset + 1 then failAt cur .nothingToRepeat
        else return (.flags changes, close.skip 1)
    | _ => .ok (.captured none, cur)

/-! ### Expressions -/

/-- The items that have been read of a branch, last first, and where the branch
starts. -/
structure OpenBranch where
  offset : Nat
  items : List (Nat × Expression)

/-- The expression of the items. -/
def OpenBranch.close (b : OpenBranch) : Expression :=
  match b.items with
  | [] => .empty
  | [(_, e)] => e
  | items => .concat b.offset (items.reverse.map (·.2))

/-- The branches of a group in front of the one that is open, last first, and where
the first of them starts. -/
structure OpenAlternation where
  offset : Nat
  branches : List Expression

/-- The expression of the branches, the last of which is `b`. -/
def OpenAlternation.close (a : Option OpenAlternation) (b : OpenBranch) : Expression :=
  match a with
  | some a => .alternation a.offset (b.close :: a.branches).reverse
  | none => b.close

/-- A group that is open, with what stood in front of it. -/
structure OpenGroup where
  offset : Nat
  captured : Bool
  changes : FlagChanges
  /-- Whether verbose mode holds in front of the group. -/
  verbose : Bool
  branch : OpenBranch
  alternation : Option OpenAlternation

/-- The state of the reader between two pieces. -/
structure State where
  groups : List OpenGroup
  alternation : Option OpenAlternation
  branch : OpenBranch
  verbose : Bool
  names : List Text

/-- The state after one more item, which starts at an offset. -/
def State.push (s : State) (offset : Nat) (e : Expression) : State :=
  { s with branch := { s.branch with items := (offset, e) :: s.branch.items } }

/-- The change of verbose mode that flags make. -/
def verboseAfter (changes : FlagChanges) (verbose : Bool) : Bool :=
  match changes.find? (·.1 == .verbose) with
  | some (_, on) => on
  | none => verbose

/-- The state after the parenthesis under the cursor. -/
def State.open (s : State) (cur : Cursor) : Reading (State × Cursor) := do
  let (opening, after) ← openGroup s.verbose s.names cur
  let group (captured : Bool) (changes : FlagChanges) (names : List Text) : State :=
    { groups := ⟨cur.offset, captured, changes, s.verbose, s.branch, s.alternation⟩ :: s.groups
      alternation := none
      branch := ⟨after.offset, []⟩
      verbose := verboseAfter changes s.verbose
      names }
  match opening with
  | .flags changes =>
    return ({ s.push cur.offset (.flags changes) with
      verbose := verboseAfter changes s.verbose }, after)
  | .group changes => return (group false changes s.names, after)
  | .captured name => return (group true [] (name.toList ++ s.names), after)

/-- The state after the closing parenthesis under the cursor. -/
def State.close (s : State) (cur : Cursor) : Reading (State × Cursor) :=
  match s.groups with
  | [] => failAt cur .groupUnopened
  | g :: groups =>
    let body := OpenAlternation.close s.alternation s.branch
    .ok (State.push
      { s with groups, alternation := g.alternation, branch := g.branch, verbose := g.verbose }
      g.offset (.group g.offset g.captured g.changes body), cur.skip 1)

/-- The state after the bar under the cursor. -/
def State.bar (s : State) (cur : Cursor) : State × Cursor :=
  let alternation := match s.alternation with
    | some a => { a with branches := s.branch.close :: a.branches }
    | none => ⟨s.branch.offset, [s.branch.close]⟩
  let after := cur.skip 1
  ({ s with alternation := some alternation, branch := ⟨after.offset, []⟩ }, after)

/-- The last item, which is to be repeated, and the items in front of it. -/
def State.operand (s : State) (cur : Cursor) :
    Reading ((Nat × Expression) × List (Nat × Expression)) :=
  match s.branch.items with
  | [] => failAt cur .nothingToRepeat
  | (_, .empty) :: _ => failAt cur .nothingToRepeat
  | (_, .flags _) :: _ => failAt cur .nothingToRepeat
  | item :: before => .ok (item, before)

/-- The state with the last item repeated. -/
def State.repeated (s : State) (item : Nat × Expression) (before : List (Nat × Expression))
    (least : Nat) (greatest : Option Nat) (greedy : Bool) : State :=
  let e := Expression.repetition item.1 least greatest greedy item.2
  { s with branch := { s.branch with items := (item.1, e) :: before } }

/-- The state after the repetition sign under the cursor. -/
def State.readSign (s : State) (least : Nat) (greatest : Option Nat) (cur : Cursor) :
    Reading (State × Cursor) := do
  let (item, before) ← s.operand cur
  let after := cur.skip 1
  let lazily := after.rest.head? == some '?'
  return (s.repeated item before least greatest !lazily, if lazily then after.skip 1 else after)

/-- The least and greatest number of a repetition in braces, where `opening` stands
at the brace and the cursor behind it. -/
def readCounts (verbose : Bool) (opening cur : Cursor) :
    Reading ((Nat × Option Nat) × Cursor) :=
  let (first, after) := readCount verbose cur
  match after.rest with
  | [] => failAt opening .countUnclosed
  | ',' :: _ =>
    let behind := next verbose after
    match behind.rest with
    | [] => failAt opening .countUnclosed
    | '\x7d' :: _ => do return ((← first, none), behind)
    | _ => do
      let least ← first
      let (second, after) := readCount verbose behind
      return ((least, some (← second)), after)
  | _ => do
    let n ← first
    return ((n, some n), after)

/-- The state after the repetition in braces whose opening brace is under the
cursor. -/
def State.readBraces (s : State) (cur : Cursor) : Reading (State × Cursor) := do
  let (item, before) ← s.operand cur
  let inside := next s.verbose cur
  if inside.rest.isEmpty then failAt cur .countUnclosed
  else
    let ((least, greatest), close) ← readCounts s.verbose cur inside
    if close.rest.head? != some '\x7d' then failAt cur .countUnclosed
    else
      let after := next s.verbose close
      let lazily := after.rest.head? == some '?'
      if greatest.any (· < least) then failAt cur .countsOutOfOrder
      else
        return (s.repeated item before least greatest !lazily,
          if lazily then after.skip 1 else after)

/-- The state after the piece under the cursor. -/
def State.readPiece (s : State) (c : Char) (cur : Cursor) : Reading (State × Cursor) := do
  let (piece, after) ← match c with
    | '\\' => readEscape s.verbose cur
    | '.' => .ok (.dot, cur.skip 1)
    | '^' => .ok (.assertion .startLine, cur.skip 1)
    | '$' => .ok (.assertion .endLine, cur.skip 1)
    | c => .ok (.literal ⟨c, false⟩, cur.skip 1)
  return (s.push cur.offset piece.expression, after)

/-- The state after whatever is under the cursor. -/
def State.step (s : State) (c : Char) (cur : Cursor) : Reading (State × Cursor) :=
  match c with
  | '(' => s.open cur
  | ')' => s.close cur
  | '|' => .ok (s.bar cur)
  | '[' => do
    let (e, after) ← readClass s.verbose cur
    return (s.push cur.offset e, after)
  | '?' => s.readSign 0 (some 1) cur
  | '*' => s.readSign 0 none cur
  | '+' => s.readSign 1 none cur
  | '\x7b' => s.readBraces cur
  | c => s.readPiece c cur

/-- The whole expression, read from a state on. -/
def readFrom : (left : Nat) → State → Cursor → Reading Expression
  | left, s, cur =>
    let cur := pass s.verbose cur
    match cur.rest with
    | [] =>
      match s.groups with
      | g :: _ => .error (.found g.offset .groupUnclosed)
      | [] => .ok (OpenAlternation.close s.alternation s.branch)
    | c :: _ =>
      match left with
      | 0 => failAt cur .groupUnclosed
      | left + 1 => do
        let (s, cur) ← s.step c cur
        readFrom left s cur

/-! ### The depth of an expression -/

/-- Pieces may be nested to this depth. -/
def depthBound : Nat := 250

mutual

/-- Where the first item stands that is nested too deeply, below `depth` others; a
missing item takes no room. -/
def ClassItem.tooDeep (depth : Nat) : ClassItem → Option Nat
  | .union _ [] => none
  | .bracketed offset _ set =>
    if depthBound ≤ depth then some offset else set.tooDeep (depth + 1)
  | .union offset items =>
    if depthBound ≤ depth then some offset else itemsTooDeep (depth + 1) items
  | _ => none

@[inherit_doc ClassItem.tooDeep] def itemsTooDeep (depth : Nat) : List ClassItem → Option Nat
  | [] => none
  | item :: rest => (item.tooDeep depth).orElse fun _ => itemsTooDeep depth rest

@[inherit_doc ClassItem.tooDeep] def ClassSet.tooDeep (depth : Nat) : ClassSet → Option Nat
  | .item item => item.tooDeep depth
  | .operation offset _ left right =>
    if depthBound ≤ depth then some offset
    else (left.tooDeep (depth + 1)).orElse fun _ => right.tooDeep (depth + 1)

end

mutual

/-- Where the first piece stands that is nested too deeply, below `depth` others. -/
def Expression.tooDeep (depth : Nat) : Expression → Option Nat
  | .bracketed offset _ set =>
    if depthBound ≤ depth then some offset else set.tooDeep (depth + 1)
  | .repetition offset _ _ _ body =>
    if depthBound ≤ depth then some offset else body.tooDeep (depth + 1)
  | .group offset _ _ body =>
    if depthBound ≤ depth then some offset else body.tooDeep (depth + 1)
  | .alternation offset branches =>
    if depthBound ≤ depth then some offset else piecesTooDeep (depth + 1) branches
  | .concat offset items =>
    if depthBound ≤ depth then some offset else piecesTooDeep (depth + 1) items
  | _ => none

@[inherit_doc Expression.tooDeep] def piecesTooDeep (depth : Nat) :
    List Expression → Option Nat
  | [] => none
  | e :: rest => (e.tooDeep depth).orElse fun _ => piecesTooDeep depth rest

end

/-- Reads a regular expression. -/
def read (expression : Text) : Reading Expression := do
  let e ← readFrom expression.length ⟨[], none, ⟨0, []⟩, false, []⟩ (.start expression)
  match e.tooDeep 0 with
  | some offset => .error (.found offset .tooDeep)
  | none => .ok e

end PhoneticSearch.Regex
