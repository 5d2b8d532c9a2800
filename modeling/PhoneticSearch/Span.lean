/-!
# Spans

A span is a half-open range of positions: characters, bytes or elements,
whichever its user counts.
-/

namespace PhoneticSearch

/-- The positions from `start` up to but not including `stop`. -/
structure Span where
  start : Nat
  stop : Nat
deriving DecidableEq, Inhabited

namespace Span

/-- The number of positions of a span. -/
def length (s : Span) : Nat := s.stop - s.start

/-- Whether a span has no positions. -/
def isEmpty (s : Span) : Bool := s.stop ≤ s.start

/-- Whether a position belongs to a span. -/
def contains (s : Span) (i : Nat) : Bool := s.start ≤ i && i < s.stop

/-- A span moved to the right. -/
def shift (s : Span) (distance : Nat) : Span := ⟨s.start + distance, s.stop + distance⟩

/-- The number of words of 64 bits, which positions are where they come from outside. -/
def wordCount : Nat := Nat.pow 2 64

/-- A span moved to the right, where positions are words: behind the greatest one they
start again at 0. -/
def shiftWord (s : Span) (distance : Nat) : Span :=
  ⟨(s.start + distance) % wordCount, (s.stop + distance) % wordCount⟩

/-- A span as it is written. -/
def text (s : Span) : String := "(" ++ Nat.repr s.start ++ ".." ++ Nat.repr s.stop ++ ")"

/-- Spans that do not reach the greatest position are moved alike. -/
theorem shiftWord_eq_shift {s : Span} {distance : Nat} (hstart : s.start + distance < wordCount)
    (hstop : s.stop + distance < wordCount) : s.shiftWord distance = s.shift distance := by
  simp [shiftWord, shift, Nat.mod_eq_of_lt hstart, Nat.mod_eq_of_lt hstop]

theorem mem_iff {s : Span} {i : Nat} : s.contains i = true ↔ s.start ≤ i ∧ i < s.stop := by
  simp [contains]

theorem contains_shift (s : Span) (distance i : Nat) :
    (s.shift distance).contains (i + distance) = s.contains i := by
  simp [contains, shift]

/-- A span that has been moved does not contain what it has been moved over. -/
theorem contains_shift_of_lt (s : Span) {distance i : Nat} (h : i < distance) :
    (s.shift distance).contains i = false := by
  have hstart : ¬ s.start + distance ≤ i := by omega
  simp [contains, shift, hstart]

end Span

end PhoneticSearch
