import PhoneticSearch.Pattern.Cursor
import PhoneticSearch.Pattern.Located
import PhoneticSearch.Pattern.Phonex.Syntax
import PhoneticSearch.Transcription.Reader

/-!
# Reading phonex expressions

The grammar of phonex expressions, read from left to right:

* an expression is one or more branches with `|` between them;
* a branch is a sequence of atoms, each followed by at most one of `?`, `*` and
  `+`, with white space between them;
* an atom is an expression in parentheses, `^`, `$`, `\b`, or a phone matcher;
* a phone matcher is `.`, an escape, a feature set in braces, a class in brackets
  or a glyph with its diacritics, and may be followed by `:` and the letter of a
  constituent.

The readers of nested forms carry a bound on the depth of the nesting; the bound
that `read` starts with is never reached.
-/

namespace PhoneticSearch.Phonex

/-- What a reader returns, or a fault. -/
abbrev Reading := Except (Located Fault)

/-- The diacritics and tied glyphs that a text starts with; with them, the tie
bars and tied glyphs alone. -/
def marks : Text → Text × Text
  | [] => ([], [])
  | c :: rest =>
    if isTieBar c then
      match rest with
      | glyph :: rest =>
        let (text, base) := marks rest
        (c :: glyph :: text, c :: glyph :: base)
      | [] => ([], [])
    else if isDiacritic c then
      let (text, base) := marks rest
      (c :: text, base)
    else ([], [])

/-- A glyph with the marks after it. -/
def readGlyph (c : Char) (cur : Cursor) : PhoneMatcher × Cursor :=
  let (text, base) := marks cur.rest
  (if text == base then .base (c :: base) else .exact (c :: text), cur.skip text.length)

/-- One name of a feature set, with a minus sign before a feature that is
excluded. -/
def readFeature (name : Text) : Except Text (Bool × Feature) :=
  let (negated, name) := match name with
    | '-' :: rest => (true, Text.trim rest)
    | _ => (false, name)
  match Feature.read name with
  | some f => .ok (negated, f)
  | none => .error name

/-- A feature set after the brace that opens it at `opening`. -/
def readFeatures (opening : Nat) (cur : Cursor) : Reading (PhoneMatcher × Cursor) :=
  let body := cur.rest.takeWhile (· != '\x7d')
  if body.length = cur.rest.length then .error (.found opening .unclosedFeatures)
  else match (Text.items ',' body).mapM readFeature with
    | .error name => .error (.found opening (.unknownFeature name))
    | .ok [] => .error (.found opening .emptyFeatures)
    | .ok named =>
      let pick (negated : Bool) :=
        FeatureSet.ofList ((named.filter (·.1 == negated)).map (·.2))
      .ok (.features (pick false) (pick true), cur.skip (body.length + 1))

/-- The matcher of an escape that starts with a backslash at `opening`. -/
def readEscape (opening : Nat) (cur : Cursor) : Reading (PhoneMatcher × Cursor) :=
  match cur.rest with
  | 'c' :: _ => .ok (.consonant, cur.skip 1)
  | 'v' :: _ => .ok (.vowel, cur.skip 1)
  | 'g' :: _ => .ok (.glide, cur.skip 1)
  | 'w' :: _ => .ok (.segment, cur.skip 1)
  | c :: _ =>
    if c.isAlphanum then .error (.found opening (.unknownEscape c))
    else .ok (.base [c], cur.skip 1)
  | [] => .error (.found opening .danglingEscape)

/-- Whether a character has a meaning of its own where a phone matcher starts and
cannot start one. -/
def isReserved (c : Char) : Bool :=
  ['(', ')', '|', '?', '*', '+', ']', '\x7d', '^', '$', ':'].contains c

/-- A phone matcher with the constituent after it, if there is one. -/
def readConstituent (m : PhoneMatcher) (cur : Cursor) : Reading (PhoneMatcher × Cursor) :=
  match cur.rest with
  | ':' :: rest =>
    match rest.head?.bind Constituent.ofLetter? with
    | some c => .ok (.within m c, cur.skip 2)
    | none => .error (.found cur.offset .missingConstituent)
  | _ => .ok (m, cur)

mutual

/-- A phone matcher. -/
def readMatcher : (depth : Nat) → Cursor → Reading (PhoneMatcher × Cursor)
  | 0, cur => .error (.found cur.offset .missingMatcher)
  | depth + 1, cur =>
    match cur.rest with
    | [] => .error (.found cur.offset .missingMatcher)
    | c :: _ => do
      let next := cur.skip 1
      let (m, next) ←
        if c = '.' then .ok (.any, next)
        else if c = '\\' then readEscape cur.offset next
        else if c = '\x7b' then readFeatures cur.offset next
        else if c = '[' then readClass depth cur.offset next
        else if isReserved c then .error (.found cur.offset (.unexpected c))
        else if isDiacritic c then .error (.found cur.offset .diacriticWithoutBase)
        else .ok (readGlyph c next)
      readConstituent m next

/-- A class after the bracket that opens it at `opening`. -/
def readClass : (depth : Nat) → (opening : Nat) → Cursor → Reading (PhoneMatcher × Cursor)
  | 0, opening, _ => .error (.found opening .unclosedClass)
  | depth + 1, opening, cur => do
    let negated := cur.rest.head? == some '^'
    let (members, next) ← readMembers depth opening (if negated then cur.skip 1 else cur)
    if members.isEmpty then .error (.found opening .emptyClass)
    else .ok (.oneOf negated members, next)

/-- The members of a class up to the bracket that closes it. -/
def readMembers : (depth : Nat) → (opening : Nat) → Cursor → Reading (List PhoneMatcher × Cursor)
  | 0, opening, _ => .error (.found opening .unclosedClass)
  | depth + 1, opening, cur =>
    let cur := cur.skipBlank
    match cur.rest with
    | [] => .error (.found opening .unclosedClass)
    | ']' :: _ => .ok ([], cur.skip 1)
    | _ => do
      let (m, next) ← readMatcher depth cur
      let (members, next) ← readMembers depth opening next
      return (m :: members, next)

end

/-- A bound on the nesting of the phone matchers in a text. -/
def matcherDepth (t : Text) : Nat := 3 * t.length + 3

/-- A node with the quantifier after it, if there is one. -/
def readQuantifier (node : Node) (cur : Cursor) : Node × Cursor :=
  match cur.rest.head?.bind Quantifier.ofChar? with
  | some q => (.repeated node q, cur.skip 1)
  | none => (node, cur)

mutual

/-- The branches of an expression. -/
def readBranches : (depth : Nat) → Cursor → Reading (List (List Node) × Cursor)
  | 0, cur => .error (.found cur.offset .missingMatcher)
  | depth + 1, cur => do
    let (branch, next) ← readBranch depth cur
    match next.rest with
    | '|' :: _ =>
      let (branches, next) ← readBranches depth (next.skip 1)
      return (branch :: branches, next)
    | _ => return ([branch], next)

/-- One branch of an expression. -/
def readBranch : (depth : Nat) → Cursor → Reading (List Node × Cursor)
  | 0, cur => .error (.found cur.offset .missingMatcher)
  | depth + 1, cur =>
    let cur := cur.skipBlank
    match cur.rest with
    | [] => .ok ([], cur)
    | c :: _ =>
      if c = '|' ∨ c = ')' then .ok ([], cur)
      else if (Quantifier.ofChar? c).isSome then .error (.found cur.offset (.nothingToRepeat c))
      else do
        let (node, next) ← readAtom depth cur
        let (node, next) := readQuantifier node next
        let (nodes, next) ← readBranch depth next
        return (node :: nodes, next)

/-- One atom of a branch. -/
def readAtom : (depth : Nat) → Cursor → Reading (Node × Cursor)
  | 0, cur => .error (.found cur.offset .missingMatcher)
  | depth + 1, cur =>
    match cur.rest with
    | '(' :: _ => do
      let (branches, next) ← readBranches depth (cur.skip 1)
      if next.rest.head? != some ')' then .error (.found cur.offset .unclosedGroup)
      else if branches.all List.isEmpty then .error (.found cur.offset .emptyGroup)
      else .ok (.alternatives branches, next.skip 1)
    | '^' :: _ => .ok (.start, cur.skip 1)
    | '$' :: _ => .ok (.stop, cur.skip 1)
    | '\\' :: 'b' :: _ => .ok (.element .wordBoundary, cur.skip 2)
    | rest => do
      let (m, next) ← readMatcher (matcherDepth rest) cur
      return (.element (.phone m), next)

end

/-- Reads a phonex expression. -/
def read (expression : Text) : Except (Located Fault) Node := do
  let (branches, next) ← readBranches (3 * expression.length + 3) (.start expression)
  match next.rest with
  | c :: _ => .error (.found next.offset (.unexpected c))
  | [] =>
    if branches.all List.isEmpty then .error ⟨none, .emptyExpression⟩
    else .ok (.alternatives branches)

/-- Reads a single phone matcher with white space around it. -/
def readOne (expression : Text) : Except (Located Fault) PhoneMatcher := do
  let text := Text.trim expression
  let (m, next) ← readMatcher (matcherDepth text) (.start text)
  match next.rest with
  | c :: _ => .error (.found next.offset (.unexpected c))
  | [] => .ok m

end PhoneticSearch.Phonex
