import PhoneticSearch.Pattern.Regex.Place

/-!
# Regular expressions as they are matched

What is left of a regular expression when its flags and classes are resolved: texts,
sets of characters, tests of places, sequences, choices and repetitions.

Patterns are put together in a settled form.  `Pattern.ofSet`, `Pattern.join`,
`Pattern.oneOf` and `Pattern.times` leave out what takes nothing, put neighbouring
texts into one, turn a choice between single characters into a set, and take what all
branches of a choice start with in front of it.
-/

namespace PhoneticSearch.Regex

/-- A regular expression as it is matched. -/
inductive Pattern where
  /-- Nothing, anywhere. -/
  | empty
  /-- A text that is not empty. -/
  | literal (text : Text)
  /-- One character of a set. -/
  | set (s : CharSet)
  /-- Nothing, at a place that passes a test. -/
  | place (p : Place)
  /-- A group that is captured, known by where it starts in the expression. -/
  | group (offset : Nat) (body : Pattern)
  /-- Patterns one behind the other. -/
  | sequence (items : List Pattern)
  /-- One of several patterns, the first ones rather than the last ones. -/
  | choice (branches : List Pattern)
  /-- A pattern repeated; without a greatest number as often as possible. -/
  | repeated (body : Pattern) (least : Nat) (greatest : Option Nat) (greedy : Bool)

namespace Pattern

/-! ### Comparing -/

mutual

/-- Whether two patterns are the same. -/
def same : Pattern → Pattern → Bool
  | empty, empty => true
  | literal a, literal b => a == b
  | set a, set b => a == b
  | place a, place b => a == b
  | group m a, group n b => m == n && same a b
  | sequence a, sequence b => sameItems a b
  | choice a, choice b => sameItems a b
  | repeated a least greatest greedy, repeated b least' greatest' greedy' =>
    same a b && least == least' && greatest == greatest' && greedy == greedy'
  | _, _ => false

/-- Whether the patterns of two lists are the same. -/
def sameItems : List Pattern → List Pattern → Bool
  | [], [] => true
  | a :: as, b :: bs => same a b && sameItems as bs
  | _, _ => false

end

/-! ### Lengths -/

mutual

/-- The least number of characters that a pattern takes; none if a part of it can
never match. -/
def leastLength : Pattern → Option Nat
  | empty => some 0
  | literal t => some t.length
  | set s => if s.isEmpty then none else some 1
  | place _ => some 0
  | group _ body => body.leastLength
  | sequence items => totalLength items
  | choice branches => shortestLength branches
  | repeated body least _ _ => body.leastLength.map (· * least)

/-- The least number of characters that patterns take together. -/
def totalLength : List Pattern → Option Nat
  | [] => some 0
  | p :: rest => do return (← p.leastLength) + (← totalLength rest)

/-- The least number of characters that one of some patterns takes. -/
def shortestLength : List Pattern → Option Nat
  | [] => none
  | [p] => p.leastLength
  | p :: rest => do return min (← p.leastLength) (← shortestLength rest)

end

/-- Whether a pattern can match and takes a character whenever it does. -/
def takesSomething (p : Pattern) : Bool := p.leastLength.any (0 < ·)

mutual

/-- Whether a pattern never takes a character. -/
def takesNothing : Pattern → Bool
  | empty => true
  | literal _ => false
  | set _ => false
  | place _ => true
  | group _ body => body.takesNothing
  | sequence items => allTakeNothing items
  | choice branches => allTakeNothing branches
  | repeated body _ greatest _ => greatest.isSome && body.takesNothing

@[inherit_doc takesNothing] def allTakeNothing : List Pattern → Bool
  | [] => true
  | p :: rest => p.takesNothing && allTakeNothing rest

end

/-! ### Putting patterns together -/

/-- The pattern of a set; a set of one character is a text. -/
def ofSet (s : CharSet) : Pattern :=
  match s.only? with
  | some c => literal [c]
  | none => set s

/-- The parts of a pattern that stand one behind the other. -/
def items : Pattern → List Pattern
  | empty => []
  | sequence ps => ps
  | p => [p]

/-- A pattern in front of others, with neighbouring texts put into one. -/
def followedBy (p : Pattern) (rest : List Pattern) : List Pattern :=
  match p, rest with
  | literal s, literal t :: rest => literal (s ++ t) :: rest
  | p, rest => p :: rest

/-- Patterns one behind the other. -/
def join (ps : List Pattern) : Pattern :=
  match (ps.flatMap items).foldr followedBy [] with
  | [] => empty
  | [p] => p
  | ps => sequence ps

/-- The branches of a pattern. -/
def branches : Pattern → List Pattern
  | choice ps => ps
  | p => [p]

/-- The character that a pattern is. -/
def char? : Pattern → Option Char
  | literal [c] => some c
  | _ => none

/-- The set that a pattern is. -/
def set? : Pattern → Option CharSet
  | set s => some s
  | _ => none

/-- A pattern that stands for a choice as a whole: the only branch, or a set where
all branches are characters or all are sets. -/
def collapse? (ps : List Pattern) : Option Pattern :=
  match ps with
  | [p] => some p
  | ps =>
    match ps.mapM char? with
    | some cs => some (ofSet (.ofChars cs))
    | none => (ps.mapM set?).map fun sets => ofSet (sets.foldl .union .empty)

/-- The number of patterns that two lists both start with. -/
def commonLength : List Pattern → List Pattern → Nat
  | a :: as, b :: bs => if same a b then commonLength as bs + 1 else 0
  | _, _ => 0

/-- The items of a pattern that is a sequence. -/
def sequence? : Pattern → Option (List Pattern)
  | sequence ps => some ps
  | _ => none

/-- What all branches of a choice start with, and what is left of each, where all are
sequences. -/
def commonFront? (ps : List Pattern) : Option (List Pattern × List (List Pattern)) :=
  match ps.mapM sequence? with
  | some (first :: others) =>
    let length := others.foldl (fun n items => min n (commonLength first items)) first.length
    if length = 0 then none
    else some (first.take length, (first :: others).map (·.drop length))
  | _ => none

/-- One of several patterns. -/
def oneOf (ps : List Pattern) : Pattern :=
  let ps := ps.flatMap branches
  match collapse? ps with
  | some p => p
  | none =>
    match commonFront? ps with
    | some (front, tails) =>
      let tails := (tails.map join).flatMap branches
      join (front ++ [(collapse? tails).getD (choice tails)])
    | none => choice ps

/-- A pattern repeated.  What takes nothing is not repeated. -/
def times (body : Pattern) (least : Nat) (greatest : Option Nat) (greedy : Bool) : Pattern :=
  let (least, greatest) :=
    if body.takesNothing then (min least 1, some (greatest.elim 1 (min · 1)))
    else (least, greatest)
  if least = 0 ∧ greatest = some 0 then empty
  else if least = 1 ∧ greatest = some 1 then body
  else repeated body least greatest greedy

end Pattern

end PhoneticSearch.Regex
