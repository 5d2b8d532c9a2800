import PhoneticSearch.Pattern.Regex.Pattern
import PhoneticSearch.Text.ByteRanges
import Std.Data.HashMap

/-!
# The room that a regular expression takes

An expression is bounded by the room that it takes when it is matched byte by byte,
with its repetitions written out, be it from the front or from the back.  A state
takes 32 bytes, a state that reads one of several ranges of bytes 8 more for each
range, and a fork 4 more for each of its branches.

A set of characters that are not all ASCII is a trie of the ranges of their bytes, and
a choice between texts a trie of their bytes.  The states of a set are shared where
they lead to the same states.  They are looked up in a table with few places, in which
a state may take the place of another, so how many are shared depends on the numbers
of the states.

`Pattern.fits` says whether a pattern is within the bound.
-/

namespace PhoneticSearch.Regex

/-- Which end of a text is read first. -/
inductive Direction where
  | forward
  | backward
deriving DecidableEq

/-- The states that have been written out, and the bytes that they take. -/
structure Footprint where
  states : Nat
  bytes : Nat

namespace Footprint

/-- The number of bytes that may be taken. -/
def bound : Nat := 10 * Nat.pow 2 20

/-- The number of bytes of a state without ranges or branches. -/
def stateSize : Nat := 32

/-- The number of bytes of a range of bytes. -/
def rangeSize : Nat := 8

/-- The number of bytes of a branch. -/
def branchSize : Nat := 4

/-- What is taken after some more bytes, if that is within the bound. -/
def addBytes (f : Footprint) (count : Nat) : Option Footprint :=
  if f.bytes + count ≤ bound then some { f with bytes := f.bytes + count } else none

/-- What is taken after one more state with some ranges. -/
def addState (f : Footprint) (ranges : Nat) : Option Footprint :=
  addBytes { f with states := f.states + 1 } (stateSize + rangeSize * ranges)

/-- What is taken after some more states without ranges. -/
def addStates (f : Footprint) (count : Nat) : Option Footprint :=
  addBytes { f with states := f.states + count } (stateSize * count)

/-- What is taken after some more branches. -/
def addBranches (f : Footprint) (count : Nat) : Option Footprint :=
  f.addBytes (branchSize * count)

/-- What is taken after a step that is done `count` times. -/
def repeatStep (step : Footprint → Option Footprint) : (count : Nat) → Footprint →
    Option Footprint
  | 0, f => some f
  | count + 1, f =>
    match step f with
    | some f => repeatStep step count f
    | none => none

end Footprint

/-! ### Sets -/

/-- A range of bytes, and the state behind it. -/
structure ByteEdge where
  range : ByteRange
  target : Nat
deriving DecidableEq

/-- A number mixed into a hash. -/
def mixIn (hash : UInt64) (n : Nat) : UInt64 := (hash ^^^ n.toUInt64) * 1099511628211

/-- The hash of some numbers. -/
def hashOf (numbers : List Nat) : UInt64 := numbers.foldl mixIn 14695981039346656037

/-- States that may be shared, by their places in a table: the ranges that a state
reads, and its number. -/
structure SharedStates where
  capacity : UInt64
  table : Std.HashMap UInt64 (List ByteEdge × Nat)

namespace SharedStates

/-- The table without states. -/
def empty (capacity : UInt64) : SharedStates := ⟨capacity, ∅⟩

/-- The number of the state at a place, if it reads the same ranges. -/
def find? (shared : SharedStates) (place : UInt64) (edges : List ByteEdge) : Option Nat :=
  match shared.table[place]? with
  | some (found, number) => if found = edges then some number else none
  | none => none

/-- A state put at a place. -/
def insert (shared : SharedStates) (place : UInt64) (edges : List ByteEdge) (number : Nat) :
    SharedStates :=
  { shared with table := shared.table.insert place (edges, number) }

end SharedStates

/-- The states written out and those that may be shared. -/
abbrev Sharing := Footprint × SharedStates

/-- The number of the state that reads some ranges, which is new unless there is one
at its place; `key` is what the place is hashed from. -/
def shareState (key : List Nat) (ranges : Nat) (edges : List ByteEdge) :
    Sharing → Option (Nat × Sharing)
  | (f, shared) =>
    let place := hashOf key % shared.capacity
    match shared.find? place edges with
    | some number => some (number, f, shared)
    | none => do
      let f' ← f.addState ranges
      return (f.states, f', shared.insert place edges f.states)

/-- The state that reads one of some sequences of ranges, and where it leads to. -/
def trieState (target : Nat) : (left : Nat) → List (List ByteRange) → Sharing →
    Option (Nat × Sharing)
  | 0, _, sharing => some (target, sharing)
  | left + 1, sequences, sharing => do
    let groups := sequences.splitBy fun a b => a.head? == b.head?
    let (edges, sharing) ← groups.foldlM (fun (edges, sharing) group =>
      match group with
      | (range :: next :: rest) :: others => do
        let tails := (next :: rest) :: others.map (·.drop 1)
        let (number, sharing) ← trieState target left tails sharing
        return (⟨range, number⟩ :: edges, sharing)
      | [range] :: _ => some (⟨range, target⟩ :: edges, sharing)
      | _ => some (edges, sharing))
      (([] : List ByteEdge), sharing)
    let edges := edges.reverse
    shareState (edges.flatMap fun e => [e.range.1, e.range.2, e.target]) edges.length edges
      sharing

/-- The states that read a sequence of ranges from the last one to the first, in front
of a state; the last one of them is returned. -/
def chainState (ranges : List ByteRange) (target : Nat) (sharing : Sharing) :
    Option (Nat × Sharing) :=
  ranges.foldlM (fun (target, sharing) range =>
    shareState [target, range.1, range.2] 0 [⟨range, target⟩] sharing) (target, sharing)

namespace Footprint

/-- What is taken after a set of characters. -/
def addSet (d : Direction) (f : Footprint) (s : CharSet) : Option Footprint := do
  if s.isAscii then
    (← f.addState 0).addState s.ranges.length
  else match d with
    | .forward =>
      let (_, f, _) ← trieState f.states 4 s.byteRanges (← f.addState 0, .empty 10000)
      return f
    | .backward =>
      let (f, _) ← s.byteRanges.foldlM (fun (sharing : Sharing) ranges => do
        let (_, f, shared) ← chainState ranges (f.states + 1) sharing
        return (← f.addBranches 1, shared))
        (← f.addStates 2, .empty 1000)
      return f

end Footprint

/-! ### Choices between texts -/

/-- The rest of the node of a trie of texts: bytes that lead to other nodes, and stops
where a text ends.  Bytes between two stops are in order. -/
inductive TextTrie where
  | done
  | stop (rest : TextTrie)
  | byte (b : Nat) (node rest : TextTrie)

namespace TextTrie

/-- Whether a text ends in a node. -/
def hasStop : TextTrie → Bool
  | done => false
  | stop _ => true
  | byte _ _ rest => rest.hasStop

/-- Whether no byte leads on from a node. -/
def isLeaf : TextTrie → Bool
  | done => true
  | stop rest => rest.isLeaf
  | byte .. => false

/-- A stop behind all that a node has. -/
def close : TextTrie → TextTrie
  | done => stop done
  | stop rest => stop rest.close
  | byte b node rest => byte b node rest.close

/-- A change of the node that a byte leads to, which is new unless there is one behind
the last stop. -/
def update (b : Nat) (change : TextTrie → TextTrie) : TextTrie → TextTrie
  | done => byte b (change done) done
  | stop rest => stop (rest.update b change)
  | byte k node rest =>
    if rest.hasStop || k < b then byte k node (rest.update b change)
    else if k = b then byte k (change node) rest
    else byte b (change done) (byte k node rest)

/-- One more text, given by its bytes. -/
def insert : List Nat → TextTrie → TextTrie
  | [], node => if node.isLeaf && node.hasStop then node else node.close
  | b :: rest, node => node.update b (insert rest)

/-- What is taken after the rest of a node, where `bytes` have been read since the last
stop, and `branches` lead on from the node so far. -/
def footprint (bytes branches : Nat) : TextTrie → Footprint → Option Footprint
  | done, f => do
    let f ← endBytes bytes f
    (← f.addStates 1).addBranches (branches + min bytes 1)
  | stop rest, f => do rest.footprint 0 (branches + min bytes 1 + 1) (← endBytes bytes f)
  | byte _ node rest, f => do
    rest.footprint (bytes + 1) branches (← if node.isLeaf then some f else node.footprint 0 0 f)
where
  /-- The state that reads the bytes between two stops. -/
  endBytes (bytes : Nat) (f : Footprint) : Option Footprint :=
    match bytes with
    | 0 => some f
    | 1 => f.addState 0
    | n => f.addState n

end TextTrie

/-! ### Patterns -/

namespace Pattern

/-- The bytes of a text, in the order they are read in. -/
def bytesOf (d : Direction) (t : Text) : List Nat :=
  let bytes := t.flatMap fun c => utf8Bytes c.toNat
  match d with
  | .forward => bytes
  | .backward => bytes.reverse

/-- The text that a pattern is. -/
def text? : Pattern → Option Text
  | literal t => some t
  | _ => none

mutual

/-- Whether the state that a pattern ends in is a fork. -/
def endsInFork (d : Direction) : Pattern → Bool
  | group _ body => d = .backward && body.endsInFork d
  | sequence items =>
    match d with
    | .forward => lastEndsInFork d items
    | .backward => firstEndsInFork d items
  | repeated body least none _ => 0 < least || body.takesSomething
  | repeated body least (some greatest) _ => least = greatest && body.endsInFork d
  | _ => false

/-- Whether the first of some patterns ends in a fork. -/
def firstEndsInFork (d : Direction) : List Pattern → Bool
  | [] => false
  | p :: _ => p.endsInFork d

/-- Whether the last of some patterns ends in a fork. -/
def lastEndsInFork (d : Direction) : List Pattern → Bool
  | [] => false
  | [p] => p.endsInFork d
  | _ :: rest => lastEndsInFork d rest

end

/-- The number of patterns that end in a fork. -/
def forkEnds (d : Direction) (ps : List Pattern) : Nat := ps.countP (·.endsInFork d)

/-- What is taken after a choice between texts. -/
def addTexts (d : Direction) (texts : List Text) (f : Footprint) : Option Footprint := do
  let trie := texts.foldl (fun trie t => trie.insert (bytesOf d t)) TextTrie.done
  trie.footprint 0 0 (← f.addStates 1)

mutual

/-- What is taken after a pattern. -/
def addTo (d : Direction) : Pattern → Footprint → Option Footprint
  | empty, f => f.addStates 1
  | literal t, f => f.addStates (bytesOf d t).length
  | set s, f => f.addSet d s
  | place _, f => f.addStates 1
  | group _ body, f =>
    match d with
    | .forward => do
      let f ← body.addTo d (← f.addStates 1)
      (← f.addStates 1).addBranches (forkEnds d [body])
    | .backward => body.addTo d f
  | sequence items, f => addSequence d items f
  | choice branches, f =>
    match branches.mapM text? with
    | some texts => addTexts d texts f
    | none => do (← addChoice d 0 branches f).addBranches (branches.length + forkEnds d branches)
  | repeated body least greatest _, f =>
    let forkEnd := forkEnds d [body]
    let copies (count : Nat) (f : Footprint) : Option Footprint := do
      let f ← Footprint.repeatStep (body.addTo d) count f
      f.addBranches (forkEnd * (count - 1))
    match greatest, least with
    | none, 0 =>
      if body.takesSomething then do
        let f ← body.addTo d (← f.addStates 1)
        f.addBranches (1 + forkEnd)
      else do
        let f ← body.addTo d f
        (← f.addStates 3).addBranches (4 + forkEnd)
    | none, least + 1 => do
      let f ← copies (least + 1) f
      (← f.addStates 1).addBranches (1 + forkEnd)
    | some 1, 0 => do
      let f ← body.addTo d (← f.addStates 1)
      (← f.addStates 1).addBranches (2 + forkEnd)
    | some greatest, least =>
      if least = greatest then copies least f
      else do
        let f ← if least = 0 then f.addStates 1 else copies least f
        let f ← Footprint.repeatStep (fun f => do
          let f ← body.addTo d (← f.addStates 1)
          f.addBranches (2 + forkEnd)) (greatest - least) (← f.addStates 1)
        f.addBranches (if least = 0 then 0 else forkEnd)

/-- What is taken after patterns one behind the other. -/
def addSequence (d : Direction) : List Pattern → Footprint → Option Footprint
  | [], f => some f
  | [p], f => p.addTo d f
  | p :: rest, f =>
    match d with
    | .forward => do
      let f ← addSequence d rest (← p.addTo d f)
      f.addBranches (forkEnds d [p])
    | .backward => do
      let f ← p.addTo d (← addSequence d rest f)
      f.addBranches (forkEnds d (rest.take 1))

/-- What is taken after the branches of a choice, of which some stand in front.  The
states that they begin and end in are written behind the second branch. -/
def addChoice (d : Direction) (before : Nat) : List Pattern → Footprint → Option Footprint
  | [], f => some f
  | p :: rest, f => do
    let f ← p.addTo d f
    addChoice d (before + 1) rest (← if before = 1 then f.addStates 2 else some f)

end

mutual

/-- Whether a pattern matches at the end of a text only that is read first. -/
def isAnchored (d : Direction) : Pattern → Bool
  | place p =>
    match d with
    | .forward => p = .startText
    | .backward => p = .endText
  | group _ body => body.isAnchored d
  | sequence items =>
    match d with
    | .forward => firstAnchored d items
    | .backward => lastAnchored d items
  | choice branches => allAnchored d branches
  | repeated body least _ _ => 0 < least && body.isAnchored d
  | _ => false

/-- Whether one of some patterns is anchored that only such stand in front of as take
nothing. -/
def firstAnchored (d : Direction) : List Pattern → Bool
  | [] => false
  | p :: rest => p.isAnchored d || p.takesNothing && firstAnchored d rest

/-- Whether one of some patterns is anchored that only such stand behind as take
nothing. -/
def lastAnchored (d : Direction) : List Pattern → Bool
  | [] => false
  | p :: rest => lastAnchored d rest || allTakeNothing rest && p.isAnchored d

/-- Whether all of some patterns are anchored. -/
def allAnchored (d : Direction) : List Pattern → Bool
  | [] => true
  | p :: rest => p.isAnchored d && allAnchored d rest

end

/-- What is taken by a pattern as a whole: what skips the characters in front of a
match, the pattern, which is captured when it is read forward, and the state that
accepts. -/
def footprint (d : Direction) (p : Pattern) : Option Footprint := do
  let f : Footprint := ⟨0, 0⟩
  let f ← if p.isAnchored d then f.addStates 1
    else (← (← f.addStates 2).addState 1).addBranches 2
  let f ← (group 0 p).addTo d f
  (← f.addStates 1).addBranches (if d = .backward then forkEnds d [p] else 0)

/-- Whether a pattern is within the bound in both directions. -/
def fits (p : Pattern) : Bool :=
  (p.footprint .forward).isSome && (p.footprint .backward).isSome

end Pattern

end PhoneticSearch.Regex
