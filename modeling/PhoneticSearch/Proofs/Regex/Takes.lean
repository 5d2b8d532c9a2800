import Mathlib.Logic.Relation
import PhoneticSearch.Pattern.Regex.Pattern

/-!
# What a pattern takes

The meaning of a pattern is a relation of places in a text: `Pattern.Takes p x y` says that a
match of `p` may start at `x` and end at `y`.  It is read off the pattern and says nothing of how
matches are found, or which of them is preferred: a sequence is the composition of its items, a
choice the union of its branches, and a repetition a number of copies.

Joined patterns take what their items take one behind the other (`Pattern.takes_join`).
-/

namespace PhoneticSearch.Regex

open Relation

/-- A place in a text: the character in front of it, and the text behind it. -/
structure Spot where
  before : Option Char
  rest : Text

namespace Spot

/-- The place in front of a text. -/
def start (t : Text) : Spot := ⟨none, t⟩

/-- The place behind a text. -/
def stop (t : Text) : Spot := ⟨t.getLast?, []⟩

/-- Whether one character of a set stands between two places. -/
inductive Steps (s : CharSet) : Spot → Spot → Prop where
  | mk {before : Option Char} {c : Char} {rest : Text} (h : s.contains c = true) :
      Steps s ⟨before, c :: rest⟩ ⟨some c, rest⟩

/-- Whether a text stands between two places. -/
def Spells : Text → Spot → Spot → Prop
  | [] => Eq
  | c :: t => Comp (Steps (.single c)) (Spells t)

/-- Whether there is nothing between two places, of which the first passes a test. -/
def Passes (p : Place) (x y : Spot) : Prop := p.holds x.before x.rest.head? = true ∧ x = y

/-- Whether one place is not behind another. -/
def Reaches (x y : Spot) : Prop := ∃ t, Spells t x y

theorem steps_cons_iff {s : CharSet} {before : Option Char} {c : Char} {rest : Text} {y : Spot} :
    Steps s ⟨before, c :: rest⟩ y ↔ s.contains c = true ∧ y = ⟨some c, rest⟩ := by
  constructor
  · rintro ⟨h⟩
    exact ⟨h, rfl⟩
  · rintro ⟨h, rfl⟩
    exact ⟨h⟩

theorem not_steps_nil {s : CharSet} {before : Option Char} {y : Spot} :
    ¬ Steps s ⟨before, []⟩ y := by
  rintro ⟨⟩

theorem spells_cons_iff {a c : Char} {t rest : Text} {before : Option Char} {y : Spot} :
    Spells (a :: t) ⟨before, c :: rest⟩ y ↔ c = a ∧ Spells t ⟨some c, rest⟩ y := by
  constructor
  · rintro ⟨z, hstep, hspells⟩
    obtain ⟨hmem, rfl⟩ := steps_cons_iff.mp hstep
    exact ⟨CharSet.contains_single.mp hmem, hspells⟩
  · rintro ⟨rfl, hspells⟩
    exact ⟨_, ⟨CharSet.contains_single.mpr rfl⟩, hspells⟩

theorem reaches_nil_iff {before : Option Char} {y : Spot} :
    Reaches ⟨before, []⟩ y ↔ y = ⟨before, []⟩ := by
  constructor
  · rintro ⟨t, h⟩
    cases t with
    | nil => exact h.symm
    | cons c t =>
      obtain ⟨z, hstep, -⟩ := h
      exact absurd hstep not_steps_nil
  · rintro rfl
    exact ⟨[], rfl⟩

theorem reaches_cons_iff {before : Option Char} {c : Char} {rest : Text} {y : Spot} :
    Reaches ⟨before, c :: rest⟩ y ↔ y = ⟨before, c :: rest⟩ ∨ Reaches ⟨some c, rest⟩ y := by
  constructor
  · rintro ⟨t, h⟩
    cases t with
    | nil => exact .inl h.symm
    | cons a t => exact .inr ⟨t, (spells_cons_iff.mp h).2⟩
  · rintro (rfl | ⟨t, h⟩)
    · exact ⟨[], rfl⟩
    · exact ⟨c :: t, spells_cons_iff.mpr ⟨rfl, h⟩⟩

theorem spells_append (s t : Text) : Spells (s ++ t) = Comp (Spells s) (Spells t) := by
  induction s with
  | nil => exact eq_comp.symm
  | cons c s ih => rw [List.cons_append, Spells, ih, Spells, comp_assoc]

end Spot

/-- The relation of a number of copies of another, one behind the other. -/
def Copies {α : Type} (R : α → α → Prop) : Nat → α → α → Prop
  | 0 => Eq
  | count + 1 => Comp R (Copies R count)

theorem copies_add {α : Type} (R : α → α → Prop) (m n : Nat) :
    Copies R (m + n) = Comp (Copies R m) (Copies R n) := by
  induction m with
  | zero => rw [Nat.zero_add, Copies, eq_comp]
  | succ m ih => rw [Nat.add_right_comm, Copies, ih, Copies, comp_assoc]

mutual

/-- Whether a match of a pattern may start at one place and end at another.  Where the greatest
number of a repetition is below the least one, the least one counts. -/
def Pattern.Takes : Pattern → Spot → Spot → Prop
  | .empty => Eq
  | .literal t => Spot.Spells t
  | .set s => Spot.Steps s
  | .place p => Spot.Passes p
  | .group _ body => body.Takes
  | .sequence items => takesAll items
  | .choice branches => takesOne branches
  | .repeated body least greatest _ => fun x y =>
    ∃ count, least ≤ count ∧ (∀ g ∈ greatest, count ≤ max least g) ∧ Copies body.Takes count x y

/-- Whether matches of patterns one behind the other may start and end so. -/
def takesAll : List Pattern → Spot → Spot → Prop
  | [] => Eq
  | p :: rest => Comp p.Takes (takesAll rest)

/-- Whether a match of one of some patterns may start and end so. -/
def takesOne : List Pattern → Spot → Spot → Prop
  | [] => fun _ _ => False
  | p :: rest => fun x y => p.Takes x y ∨ takesOne rest x y

end

/-! ### Patterns one behind the other -/

theorem takesAll_singleton (p : Pattern) : takesAll [p] = p.Takes := by
  rw [takesAll, takesAll, comp_eq]

theorem takesAll_append (ps qs : List Pattern) :
    takesAll (ps ++ qs) = Comp (takesAll ps) (takesAll qs) := by
  induction ps with
  | nil => rw [List.nil_append, takesAll, eq_comp]
  | cons p ps ih => rw [List.cons_append, takesAll, ih, takesAll, comp_assoc]

theorem takesAll_items (p : Pattern) : takesAll p.items = p.Takes := by
  cases p with
  | empty => rw [Pattern.items, takesAll, Pattern.Takes]
  | sequence items => rw [Pattern.items, Pattern.Takes]
  | literal _ | set _ | place _ | group _ _ | choice _ | repeated _ _ _ _ =>
    exact takesAll_singleton _

theorem takesAll_flatMap_items (ps : List Pattern) :
    takesAll (ps.flatMap Pattern.items) = takesAll ps := by
  induction ps with
  | nil => rfl
  | cons p ps ih => rw [List.flatMap_cons, takesAll_append, ih, takesAll_items, takesAll]

/-- Neighbouring texts take what the one takes that they make together. -/
theorem takesAll_followedBy (p : Pattern) (ps : List Pattern) :
    takesAll (p.followedBy ps) = takesAll (p :: ps) := by
  unfold Pattern.followedBy
  split
  · simp only [takesAll, Pattern.Takes, Spot.spells_append, comp_assoc]
  · rfl

theorem takesAll_foldr_followedBy (ps : List Pattern) :
    takesAll (ps.foldr Pattern.followedBy []) = takesAll ps := by
  induction ps with
  | nil => rfl
  | cons p ps ih => rw [List.foldr_cons, takesAll_followedBy, takesAll, ih, takesAll]

theorem Pattern.takes_join (ps : List Pattern) : (Pattern.join ps).Takes = takesAll ps := by
  rw [← takesAll_flatMap_items, ← takesAll_foldr_followedBy, Pattern.join]
  split
  · rename_i hnil
    rw [hnil, takesAll, Pattern.Takes]
  · rename_i p hsingle
    rw [hsingle, takesAll_singleton]
  · rw [Pattern.Takes]

end PhoneticSearch.Regex
