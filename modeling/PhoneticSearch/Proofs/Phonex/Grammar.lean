import Mathlib.Data.List.Forall2
import Mathlib.Data.List.ReduceOption
import PhoneticSearch.Pattern.Phonex.Reader

/-!
# The grammar of phonex expressions

What a text has to be to be an expression, without a word on how it is read.  Each symbol of
the grammar is a relation of the text it is written with, the text behind that, and the
syntax tree.  The text behind matters to glyphs alone, which take the longest run of marks
that they can (`LongestMarks`).

What is written has a first character that says what it may be: no matcher, no atom and no
item starts with white space, with a colon, or with a sign that stands between them.
-/

namespace PhoneticSearch.Phonex

namespace Grammar

/-! ### Symbols without nesting -/

/-- White space of any length. -/
def Blanks (w : Text) : Prop := ∀ c ∈ w, isBlank c = true

/-- Whether a text is another one with white space around it. -/
def Padded (core w : Text) : Prop :=
  ∃ lead trail, Blanks lead ∧ Blanks trail ∧ w = lead ++ core ++ trail

/-- The name of a feature, in small or capital letters. -/
def Names (name : Text) (f : Feature) : Prop := name.map Text.asciiLower = f.name.toList

/-- What stands between two commas of a feature set: nothing, or a feature that is asked for
or, behind a minus sign, excluded. -/
inductive Entry : Text → Option (Bool × Feature) → Prop
  | blank {w : Text} (h : Blanks w) : Entry w none
  | included {name w : Text} {f : Feature} (h : Names name f) (hw : Padded name w) :
    Entry w (some (false, f))
  | excluded {name v w : Text} {f : Feature} (h : Names name f) (hv : Padded name v)
    (hw : Padded ('-' :: v) w) : Entry w (some (true, f))

/-- What stands between the braces of a feature set, and the features that it names. -/
def FeatureList (body : Text) (named : List (Bool × Feature)) : Prop :=
  ∃ entries options, entries ≠ [] ∧ body = [','].intercalate entries ∧
    List.Forall₂ Entry entries options ∧ named = options.reduceOption

/-- The matcher of a feature set. -/
def featuresOf (named : List (Bool × Feature)) : PhoneMatcher :=
  let pick (negated : Bool) := FeatureSet.ofList ((named.filter (·.1 == negated)).map (·.2))
  .features (pick false) (pick true)

/-- A row of diacritics and of tie bars with any character behind them, and the latter
alone. -/
inductive Marks : Text → Text → Prop
  | nil : Marks [] []
  | diacritic {c : Char} {w tied : Text} (h : isDiacritic c = true) (hw : Marks w tied) :
    Marks (c :: w) tied
  | tied {bar c : Char} {w tied : Text} (h : isTieBar bar = true) (hw : Marks w tied) :
    Marks (bar :: c :: w) (bar :: c :: tied)

/-- The longest row of marks in front of a text. -/
structure LongestMarks (w rest tied : Text) : Prop where
  marks : Marks w tied
  longest : ∀ v other, Marks v other → v <+: w ++ rest → v.length ≤ w.length

/-- Whether a character is a glyph that a matcher starts with. -/
structure StartsGlyph (c : Char) : Prop where
  notSign : c ∉ ['(', ')', '|', '?', '*', '+', ']', '\x7d', '^', '$', ':', '\\', '\x7b', '[', '.']
  notBlank : isBlank c = false
  notDiacritic : isDiacritic c = false

/-- The matcher of a glyph with its marks: by the base glyphs if there are no others. -/
def glyphOf (c : Char) (w tied : Text) : PhoneMatcher :=
  if w = tied then .base (c :: tied) else .exact (c :: w)

/-! ### Phone matchers -/

mutual

/-- A phone matcher that says nothing of constituents. -/
inductive Base : Text → Text → PhoneMatcher → Prop
  | any {rest : Text} : Base ['.'] rest .any
  | consonant {rest : Text} : Base ['\\', 'c'] rest .consonant
  | vowel {rest : Text} : Base ['\\', 'v'] rest .vowel
  | glide {rest : Text} : Base ['\\', 'g'] rest .glide
  | segment {rest : Text} : Base ['\\', 'w'] rest .segment
  | escaped {c : Char} {rest : Text} (h : c.isAlphanum = false) : Base ['\\', c] rest (.base [c])
  | features {body rest : Text} {named : List (Bool × Feature)} (h : FeatureList body named)
    (hne : named ≠ []) : Base ('\x7b' :: (body ++ ['\x7d'])) rest (featuresOf named)
  | oneOf {w rest : Text} {ms : List PhoneMatcher} (h : Members w rest ms) (hne : ms ≠ []) :
    Base ('[' :: w) rest (.oneOf false ms)
  | noneOf {w rest : Text} {ms : List PhoneMatcher} (h : Members w rest ms) (hne : ms ≠ []) :
    Base ('[' :: '^' :: w) rest (.oneOf true ms)
  | glyph {c : Char} {w tied rest : Text} (hc : StartsGlyph c) (hw : LongestMarks w rest tied) :
    Base (c :: w) rest (glyphOf c w tied)

/-- A phone matcher, with the letter of a constituent behind a colon or without. -/
inductive Matcher : Text → Text → PhoneMatcher → Prop
  | plain {w rest : Text} {m : PhoneMatcher} (h : Base w rest m) : Matcher w rest m
  | within {w rest : Text} {letter : Char} {m : PhoneMatcher} {k : Constituent}
    (h : Base w (':' :: letter :: rest) m) (hk : Constituent.ofLetter? letter = some k) :
    Matcher (w ++ [':', letter]) rest (.within m k)

/-- The members of a class with the bracket that closes it; white space may stand in front of
each of these. -/
inductive Members : Text → Text → List PhoneMatcher → Prop
  | close {w rest : Text} (hw : Blanks w) : Members (w ++ [']']) rest []
  | member {w v u rest : Text} {m : PhoneMatcher} {ms : List PhoneMatcher} (hw : Blanks w)
    (hm : Matcher v (u ++ rest) m) (hms : Members u rest ms) :
    Members (w ++ (v ++ u)) rest (m :: ms)

end

/-! ### Expressions -/

mutual

/-- Branches with a bar between each two. -/
inductive Branches : Text → Text → List (List Node) → Prop
  | last {w rest : Text} {ns : List Node} (h : Branch w rest ns) : Branches w rest [ns]
  | bar {w v rest : Text} {ns : List Node} {bs : List (List Node)}
    (h : Branch w ('|' :: (v ++ rest)) ns) (hbs : Branches v rest bs) :
    Branches (w ++ '|' :: v) rest (ns :: bs)

/-- A branch: items with white space in front of each of them and at the end. -/
inductive Branch : Text → Text → List Node → Prop
  | last {w rest : Text} (hw : Blanks w) : Branch w rest []
  | item {w v u rest : Text} {n : Node} {ns : List Node} (hw : Blanks w)
    (hn : Item v (u ++ rest) n) (hns : Branch u rest ns) :
    Branch (w ++ (v ++ u)) rest (n :: ns)

/-- An item: an atom with at most one quantifier behind it. -/
inductive Item : Text → Text → Node → Prop
  | once {w rest : Text} {n : Node} (h : Atom w rest n) : Item w rest n
  | repeated {w rest : Text} {c : Char} {n : Node} {q : Quantifier} (h : Atom w (c :: rest) n)
    (hq : Quantifier.ofChar? c = some q) : Item (w ++ [c]) rest (.repeated n q)

/-- An atom.  An expression in parentheses has a branch with an item. -/
inductive Atom : Text → Text → Node → Prop
  | group {w rest : Text} {bs : List (List Node)} (h : Branches w (')' :: rest) bs)
    (hne : ∃ ns ∈ bs, ns ≠ []) : Atom ('(' :: (w ++ [')'])) rest (.alternatives bs)
  | start {rest : Text} : Atom ['^'] rest .start
  | stop {rest : Text} : Atom ['$'] rest .stop
  | wordBoundary {rest : Text} : Atom ['\\', 'b'] rest (.element .wordBoundary)
  | matcher {w rest : Text} {m : PhoneMatcher} (h : Matcher w rest m) :
    Atom w rest (.element (.phone m))

end

/-- A whole text that is an expression, with its syntax tree; it has a branch with an
item. -/
inductive Expression : Text → Node → Prop
  | mk {w : Text} {bs : List (List Node)} (h : Branches w [] bs) (hne : ∃ ns ∈ bs, ns ≠ []) :
    Expression w (.alternatives bs)

end Grammar

end PhoneticSearch.Phonex
