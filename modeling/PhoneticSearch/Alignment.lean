import PhoneticSearch.Transcription.Basic

/-!
# Alignments

A group has two transcriptions, the target and the actual one, and an alignment
says which of their phones correspond.  It is a list of pairs of element
positions, either side of which may be empty.  `Alignment.project` carries a span
of one transcription to the other, and `Alignment.restrict` is the alignment of a
part of both.
-/

namespace PhoneticSearch

/-- One of the two transcriptions of a group. -/
inductive Side where
  | target
  | actual
deriving DecidableEq

namespace Side

/-- The other transcription. -/
def other : Side → Side
  | target => actual
  | actual => target

@[simp] theorem other_other (s : Side) : s.other.other = s := by cases s <;> rfl

/-- The name of a side. -/
def label : Side → String
  | target => "Target"
  | actual => "Actual"

/-- The name of a side in messages. -/
def noun : Side → String
  | target => "target"
  | actual => "actual"

end Side

/-- Two corresponding positions; an empty side has no counterpart. -/
structure AlignedPair where
  target : Option Nat
  actual : Option Nat
deriving DecidableEq

/-- The position of a pair on a side. -/
def AlignedPair.at (p : AlignedPair) : Side → Option Nat
  | .target => p.target
  | .actual => p.actual

/-- Which positions of two transcriptions correspond. -/
structure Alignment where
  pairs : List AlignedPair
deriving DecidableEq

namespace Alignment

/-- Why a list of pairs is no alignment. -/
inductive Fault where
  /-- A pair has neither side. -/
  | emptyPair
  /-- A position is in two pairs. -/
  | repeated (side : Side) (position : Nat)
  /-- There is no phone with that number. -/
  | outOfRange (side : Side) (ordinal : Nat)
deriving DecidableEq

/-- The message of a fault. -/
def Fault.message : Fault → String
  | emptyPair => "alignment pair with neither side"
  | repeated side i => side.noun ++ " element " ++ Nat.repr i ++ " aligned more than once"
  | outOfRange side k => side.noun ++ " phone " ++ Nat.repr k ++ " is out of range"

/-- The alignment without pairs. -/
def empty : Alignment := ⟨[]⟩

/-- Whether the positions of a pair may follow those that are `seen` on each
side. -/
def check (seenTarget seenActual : List Nat) : List AlignedPair → Except Fault Unit
  | [] => .ok ()
  | ⟨none, none⟩ :: _ => .error .emptyPair
  | ⟨target, actual⟩ :: rest =>
    match target.filter seenTarget.contains, actual.filter seenActual.contains with
    | some i, _ => .error (.repeated .target i)
    | none, some i => .error (.repeated .actual i)
    | none, none => check (target.toList ++ seenTarget) (actual.toList ++ seenActual) rest

/-- The alignment of some pairs, no two of which share a position. -/
def ofPairs (pairs : List AlignedPair) : Except Fault Alignment := do
  check [] [] pairs
  return ⟨pairs⟩

/-- Two lists side by side, the shorter one padded. -/
def padded : List Nat → List Nat → List AlignedPair
  | [], [] => []
  | [], a :: actual => ⟨none, some a⟩ :: padded [] actual
  | t :: target, [] => ⟨some t, none⟩ :: padded target []
  | t :: target, a :: actual => ⟨some t, some a⟩ :: padded target actual

/-- The alignment of each phone with the phone of the same number. -/
def positional (target actual : Transcription) : Alignment :=
  ⟨padded target.phonePositions actual.phonePositions⟩

/-- The position of the phone with a number. -/
def position (side : Side) (positions : List Nat) :
    Option Nat → Except Fault (Option Nat)
  | none => .ok none
  | some k =>
    match positions[k]? with
    | some i => .ok (some i)
    | none => .error (.outOfRange side k)

/-- The alignment that is given by the numbers of the phones on each side. -/
def ofOrdinals (target actual : Transcription) (ordinals : List (Option Nat × Option Nat)) :
    Except Fault Alignment := do
  let pairs ← ordinals.mapM fun (t, a) => do
    let t ← position .target target.phonePositions t
    let a ← position .actual actual.phonePositions a
    return (⟨t, a⟩ : AlignedPair)
  ofPairs pairs

/-- The counterpart on the other side of a position. -/
def partner? (alignment : Alignment) (side : Side) (i : Nat) : Option Nat :=
  (alignment.pairs.find? (·.at side == some i)).bind (·.at side.other)

/-- The alignment of two spans: the pairs with a side in its span, with positions
counted from the starts of the spans. -/
def restrict (alignment : Alignment) (target actual : Span) : Alignment :=
  ⟨alignment.pairs.filterMap fun p =>
    let t := p.target.filter target.contains
    let a := p.actual.filter actual.contains
    if t.isSome || a.isSome then
      some ⟨t.map (· - target.start), a.map (· - actual.start)⟩
    else none⟩

/-- The counterparts of the positions in a span. -/
def partners (alignment : Alignment) (side : Side) (span : Span) : List Nat :=
  alignment.pairs.filterMap fun p =>
    if (p.at side).any span.contains then p.at side.other else none

/-- The least span of the other side with the counterparts of every position in a
span, if there are any. -/
def project (alignment : Alignment) (side : Side) (span : Span) : Option Span :=
  match alignment.partners side span with
  | [] => none
  | i :: rest => some ⟨rest.foldl min i, rest.foldl max i + 1⟩

/-- The projection of a span where positions are words of 64 bits.  The greatest word
is no position that a span can start at, and the end of a span starts again at 0
behind it. -/
def projectWord (alignment : Alignment) (side : Side) (span : Span) : Option Span :=
  (alignment.project side span).bind fun s =>
    if s.start + 1 < Span.wordCount then some ⟨s.start, s.stop % Span.wordCount⟩ else none

/-- Spans that do not reach the greatest position are projected alike. -/
theorem projectWord_eq_project {alignment : Alignment} {side : Side} {span : Span}
    (h : ∀ s ∈ alignment.project side span,
      s.start + 1 < Span.wordCount ∧ s.stop < Span.wordCount) :
    alignment.projectWord side span = alignment.project side span := by
  unfold projectWord
  cases hp : alignment.project side span with
  | none => rfl
  | some s =>
    obtain ⟨hstart, hstop⟩ := h s (by simp [hp])
    simp [hstart, Nat.mod_eq_of_lt hstop]

/-- The phone at a position as it is written, or a sign for no phone. -/
def renderSide (t : Transcription) (i : Option Nat) : Text :=
  match i.bind t.phoneAt? with
  | some p => p.text
  | none => ['∅']

/-- The pairs as they are written. -/
def render (alignment : Alignment) (target actual : Transcription) : Text :=
  Text.join [' '] <| alignment.pairs.map fun p =>
    renderSide target p.target ++ '↔' :: renderSide actual p.actual

end Alignment

end PhoneticSearch
