import PhoneticSearch.Pattern.Phonex.Syntax

/-!
# Where the matches of an expression end

A phonex expression is matched against the list of the visible elements of a
transcription, those that are not passed over.  `Node.ends` lists the positions
at which the matches that start at a position end, each once and in the order in
which they are preferred: earlier branches before later ones and more
repetitions before fewer.

The recursion of a repetition is bounded by the elements that are left, since
only repetitions that move on are repeated further.
-/

namespace PhoneticSearch.Phonex

/-- Where `count` and more repetitions of something end, from a position with
`left` elements after it; `step` is where one of them ends. -/
def repeatEnds (step : Nat → List Nat) (q : Quantifier) :
    (left : Nat) → (count position : Nat) → List Nat
  | left, count, position =>
    let ends := if q.allowsAfter count then step position else []
    let onward := match left with
      | 0 => []
      | left + 1 => (ends.filter (· != position)).flatMap (repeatEnds step q left (count + 1))
    (onward ++ if q.least ≤ count || ends.contains position then [position] else []).eraseDups

mutual

/-- Where the matches of a node that start at a position end. -/
def Node.ends (elements : List Element) : Node → Nat → List Nat
  | .element m, position =>
    match elements[position]? with
    | some e => if m.accepts e then [position + 1] else []
    | none => []
  | .start, position => if position = 0 then [position] else []
  | .stop, position => if position = elements.length then [position] else []
  | .alternatives branches, position => (branchesEnds elements branches position).eraseDups
  | .repeated node q, position =>
    repeatEnds (node.ends elements) q (elements.length - position) 0 position

/-- Where the matches of the branches end, branch by branch. -/
def branchesEnds (elements : List Element) : List (List Node) → Nat → List Nat
  | [], _ => []
  | branch :: rest, position =>
    sequenceEnds elements branch position ++ branchesEnds elements rest position

/-- Where the matches of a sequence end. -/
def sequenceEnds (elements : List Element) : List Node → Nat → List Nat
  | [], position => [position]
  | node :: rest, position =>
    ((node.ends elements position).flatMap (sequenceEnds elements rest)).eraseDups

end

end PhoneticSearch.Phonex
