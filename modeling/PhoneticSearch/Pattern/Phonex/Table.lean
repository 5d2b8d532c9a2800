import Std.Data.HashMap
import PhoneticSearch.Pattern.Phonex.Ends

/-!
# Ends with a table

The same ends as `Node.ends`, found with a table of those that are already known,
so that the work grows with a power of the number of elements whatever the
nesting of repetitions.  A state of the search is a node, named by its path from
the root, with a class of repetition counts and a position; a repetition without
a greatest number behaves alike for all counts from the least on.
-/

namespace PhoneticSearch.Phonex

/-- A state of the search. -/
structure State where
  /-- The branches and items that lead from the root to the node, last first. -/
  path : List Nat
  /-- The class of the number of repetitions, where a repetition is under way. -/
  count : Option Nat
  position : Nat
deriving DecidableEq, Hashable

/-- The ends that are known. -/
abbrev Table := Std.HashMap State (List Nat)

/-- The ends of a state, from the table or else computed and put there. -/
def tabled (state : State) (compute : StateM Table (List Nat)) : StateM Table (List Nat) := do
  match (← get)[state]? with
  | some ends => return ends
  | none =>
    let ends ← compute
    modify (·.insert state ends)
    return ends

/-- The class of a number of repetitions. -/
def countClass (q : Quantifier) (count : Nat) : Nat :=
  match q.greatest with
  | some _ => count
  | none => min count q.least

/-- Where repetitions end, as `repeatEnds` says, with a table. -/
def repeatEndsTabled (step : Nat → StateM Table (List Nat)) (path : List Nat) (q : Quantifier) :
    (left : Nat) → (count position : Nat) → StateM Table (List Nat)
  | left, count, position => tabled ⟨path, some (countClass q count), position⟩ do
    let ends ← if q.allowsAfter count then step position else pure []
    let onward ← match left with
      | 0 => pure []
      | left + 1 =>
        (ends.filter (· != position)).mapM (repeatEndsTabled step path q left (count + 1))
    return (onward.flatten ++
      if q.least ≤ count || ends.contains position then [position] else []).eraseDups

mutual

/-- Where the matches of a node end, as `Node.ends` says, with a table. -/
def Node.endsTabled (elements : List Element) (path : List Nat) :
    Node → Nat → StateM Table (List Nat)
  | .element m, position =>
    match elements[position]? with
    | some e => pure (if m.accepts e then [position + 1] else [])
    | none => pure []
  | .start, position => pure (if position = 0 then [position] else [])
  | .stop, position => pure (if position = elements.length then [position] else [])
  | .alternatives branches, position => tabled ⟨path, none, position⟩ do
    return (← branchesEndsTabled elements path 0 branches position).eraseDups
  | .repeated node q, position =>
    repeatEndsTabled (node.endsTabled elements (0 :: path)) (0 :: path) q
      (elements.length - position) 0 position

/-- Where the matches of the branches from number `branch` on end, with a table. -/
def branchesEndsTabled (elements : List Element) (path : List Nat) (branch : Nat) :
    List (List Node) → Nat → StateM Table (List Nat)
  | [], _ => pure []
  | nodes :: rest, position => do
    let ends ← sequenceEndsTabled elements (branch :: path) 0 nodes position
    return ends ++ (← branchesEndsTabled elements path (branch + 1) rest position)

/-- Where the matches of the items from number `item` on of a sequence end, with a
table. -/
def sequenceEndsTabled (elements : List Element) (path : List Nat) (item : Nat) :
    List Node → Nat → StateM Table (List Nat)
  | [], position => pure [position]
  | node :: rest, position => do
    let middles ← node.endsTabled elements (item :: path) position
    let ends ← middles.mapM (sequenceEndsTabled elements path (item + 1) rest)
    return ends.flatten.eraseDups

end

end PhoneticSearch.Phonex
