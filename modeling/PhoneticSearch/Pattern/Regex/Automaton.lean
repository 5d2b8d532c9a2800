import PhoneticSearch.Pattern.Regex.Pattern
import PhoneticSearch.Span

/-!
# Automata

An `Automaton` reads a text character by character.  Each state reads a character of
a set, tests a place, forks into two states of which the first is preferred, or
accepts.  `Automaton.ofPattern` makes one from a pattern: a pattern is built behind
its continuation, the state that goes on where it ends.

A search follows `Thread`s through the text, the preferred ones first.  At each
position a state is entered once, by the first thread that comes to it, so that a
repetition of what takes nothing ends by itself.  `Automaton.search` is the first
match from a position on: of those that start first, the preferred one.
-/

namespace PhoneticSearch.Regex

/-- A state of an automaton, with the numbers of the states that it leads to. -/
inductive Automaton.State where
  | accept
  | read (s : CharSet) (next : Nat)
  | test (p : Place) (next : Nat)
  /-- Goes on in the first state rather than in the second one. -/
  | fork (first second : Nat)

/-- States by their numbers, and the one that a match starts in. -/
structure Automaton where
  states : Array Automaton.State
  entry : Nat

/-! ### Building -/

namespace Pattern

mutual

/-- The number of states that a pattern takes. -/
def width : Pattern → Nat
  | empty => 0
  | literal t => t.length
  | set _ => 1
  | place _ => 1
  | group _ body => body.width
  | sequence items => sequenceWidth items
  | choice branches => choiceWidth branches
  | repeated body least none _ =>
    body.width * max least 1 + if least = 0 ∧ !body.takesSomething then 2 else 1
  | repeated body least (some greatest) _ =>
    body.width * (least + (greatest - least)) + (greatest - least)

/-- The number of states that patterns one behind the other take. -/
def sequenceWidth : List Pattern → Nat
  | [] => 0
  | p :: rest => p.width + sequenceWidth rest

/-- The number of states that a choice takes. -/
def choiceWidth : List Pattern → Nat
  | [] => 1
  | [p] => p.width
  | p :: rest => p.width + choiceWidth rest + 1

end

end Pattern

namespace Automaton

/-- The states that have been built, and the number of the one to go on with. -/
abbrev Built := Array State × Nat

/-- One more state, which is then the one to go on with. -/
def emit (states : Array State) (s : State) : Built :=
  let number := states.size
  (states.push s, number)

/-- A fork between more of a repetition and what follows it. -/
def forkFor (greedy : Bool) (more after : Nat) : State :=
  if greedy then .fork more after else .fork after more

mutual

/-- The states of a pattern behind those there are, where `next` is the state that
goes on behind the pattern. -/
def build (states : Array State) (next : Nat) : Pattern → Built
  | .empty => (states, next)
  | .literal t => t.foldr (fun c (states, next) => emit states (.read (.single c) next))
      (states, next)
  | .set s => emit states (.read s next)
  | .place p => emit states (.test p next)
  | .group _ body => build states next body
  | .sequence items => buildSequence states next items
  | .choice branches => buildChoice states next branches
  | .repeated body least none greedy =>
    -- The last copy goes on in a fork, which stands right behind it.
    let again := states.size + body.width
    let (states, start) := build states again body
    let states := states.push (forkFor greedy start next)
    match least with
    | 0 =>
      if body.takesSomething then (states, again)
      else emit states (forkFor greedy start next)
    | others + 1 =>
      Nat.repeat (fun (states, next) => build states next body) others (states, start)
  | .repeated body least (some greatest) greedy =>
    let built := Nat.repeat (fun (states, later) =>
        let (states, start) := build states later body
        emit states (forkFor greedy start next))
      (greatest - least) (states, next)
    Nat.repeat (fun (states, next) => build states next body) least built

/-- The states of patterns one behind the other. -/
def buildSequence (states : Array State) (next : Nat) : List Pattern → Built
  | [] => (states, next)
  | p :: rest =>
    let (states, next) := buildSequence states next rest
    build states next p

/-- The states of a choice. -/
def buildChoice (states : Array State) (next : Nat) : List Pattern → Built
  | [] => emit states (.read .empty next)
  | [p] => build states next p
  | p :: rest =>
    let (states, second) := buildChoice states next rest
    let (states, first) := build states next p
    emit states (.fork first second)

end

/-- The automaton of a pattern. -/
def ofPattern (p : Pattern) : Automaton :=
  let (states, entry) := build #[.accept] 0 p
  ⟨states, entry⟩

/-! ### Searching -/

/-- A match that has been begun: the position that it starts at, and the state that
it has come to. -/
structure Thread where
  start : Nat
  state : Nat

/-- Follows threads, the preferred ones first, up to states that read a character.
The first one that accepts ends the search at this position, and the position that it
starts at is returned as well.  States that have been `seen` are passed over. -/
def settle (a : Automaton) (before after : Option Char) :
    (left : Nat) → List Thread → (seen : Array Bool) → (reading : List Thread) →
      List Thread × Option Nat
  | 0, _, _, reading => (reading.reverse, none)
  | _, [], _, reading => (reading.reverse, none)
  | left + 1, t :: threads, seen, reading =>
    if seen.getD t.state true then settle a before after left threads seen reading
    else
      let seen := seen.setIfInBounds t.state true
      match a.states[t.state]? with
      | some (.read _ _) => settle a before after left threads seen (t :: reading)
      | some (.test p next) =>
        settle a before after left
          (if p.holds before after then ⟨t.start, next⟩ :: threads else threads) seen reading
      | some (.fork first second) =>
        settle a before after left (⟨t.start, first⟩ :: ⟨t.start, second⟩ :: threads) seen
          reading
      | some .accept => (reading.reverse, some t.start)
      | none => settle a before after left threads seen reading

/-- The thread after a character, if its state reads it. -/
def step (a : Automaton) (c : Char) (t : Thread) : Option Thread :=
  match a.states[t.state]? with
  | some (.read s next) => if s.contains c then some ⟨t.start, next⟩ else none
  | _ => none

/-- The threads at a position that read a character, and the best match so far; as
long as there is none, another match may start here. -/
def visit (a : Automaton) (threads : List Thread) (found : Option Span)
    (before after : Option Char) (position : Nat) : List Thread × Option Span :=
  let threads := if found.isNone then threads ++ [⟨position, a.entry⟩] else threads
  let (reading, start) :=
    a.settle before after (threads.length + 2 * a.states.size + 1) threads
      (Array.replicate a.states.size false) []
  (reading, (start.map fun start => ⟨start, position⟩).orElse fun _ => found)

/-- The best match from a position on, given the threads that have come there and the
best match so far. -/
def advance (a : Automaton) (threads : List Thread) (found : Option Span)
    (before : Option Char) (position : Nat) : Text → Option Span
  | [] => (a.visit threads found before none position).2
  | c :: rest =>
    let (reading, found) := a.visit threads found before (some c) position
    let threads := reading.filterMap (a.step c)
    if threads.isEmpty && found.isSome then found
    else advance a threads found (some c) (position + 1) rest

/-- The first match in a text that does not start before a position. -/
def search (a : Automaton) (t : Text) (position : Nat) : Option Span :=
  a.advance [] none (t.take position).getLast? position (t.drop position)

/-- The matches in a text from a position on, where `previous` is the end of the last
one.  A match that takes nothing is passed over where another one has just ended. -/
def scan (a : Automaton) (t : Text) :
    (left position : Nat) → (previous : Option Nat) → List Span
  | 0, _, _ => []
  | left + 1, position, previous =>
    match a.search t position with
    | none => []
    | some s =>
      if s.isEmpty && previous == some s.stop then
        if position < t.length then scan a t left (position + 1) previous else []
      else s :: scan a t left s.stop (some s.stop)

/-- The matches in a text, one after the other. -/
def findAll (a : Automaton) (t : Text) : List Span := a.scan t (2 * t.length + 3) 0 none

end Automaton

end PhoneticSearch.Regex
