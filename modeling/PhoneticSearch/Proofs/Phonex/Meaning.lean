import Mathlib.Logic.Relation
import PhoneticSearch.Pattern.Phonex.Syntax

/-!
# What an expression means

The meaning of a phonex expression over a list of elements is a relation of
positions: `Node.meaning elements n p q` says that a match of `n` may start at `p`
and end at `q`.  It is read off the expression and says nothing of how matches are
found, in which order or how often: a sequence is the composition of its items,
alternatives are the union of their branches, and a repetition is a closure.

Every match moves on or stays (`Node.meaning_le`), and a match that lies in a part
of the elements is a match of that part (`Node.meaning_window`): the start and the
end of the elements are positions of the part only where they are its own ends.
-/

namespace PhoneticSearch

open Relation

/-- The relation of a repetition, from the relation of what is repeated. -/
def Quantifier.closure (R : Nat → Nat → Prop) : Quantifier → Nat → Nat → Prop
  | .optional => fun p q => p = q ∨ R p q
  | .many => ReflTransGen R
  | .some => Comp R (ReflTransGen R)

namespace Phonex

mutual

/-- Whether a match of a node may start at one position and end at another. -/
def Node.meaning (elements : List Element) : Node → Nat → Nat → Prop
  | .element m => fun p q => q = p + 1 ∧ ∃ e, elements[p]? = some e ∧ m.accepts e = true
  | .start => fun p q => p = 0 ∧ q = p
  | .stop => fun p q => p = elements.length ∧ q = p
  | .alternatives branches => branchesMeaning elements branches
  | .repeated node q => q.closure (node.meaning elements)

/-- Whether a match of one of the branches may start and end so. -/
def branchesMeaning (elements : List Element) : List (List Node) → Nat → Nat → Prop
  | [] => fun _ _ => False
  | branch :: rest => fun p q =>
    sequenceMeaning elements branch p q ∨ branchesMeaning elements rest p q

/-- Whether a match of a sequence may start and end so; the empty one stays. -/
def sequenceMeaning (elements : List Element) : List Node → Nat → Nat → Prop
  | [] => fun p q => p = q
  | node :: rest => Comp (node.meaning elements) (sequenceMeaning elements rest)

end

/-! ### Matches move on or stay -/

/-- Whether a position is reached from another by moving on as far as `size`, or by
staying. -/
def Onward (size p q : Nat) : Prop := p ≤ q ∧ (p < q → q ≤ size)

namespace Onward

variable {size p q r : Nat}

theorem refl (size p : Nat) : Onward size p p := ⟨Nat.le_refl p, fun h => absurd h (Nat.lt_irrefl p)⟩

theorem trans (h : Onward size p q) (h' : Onward size q r) : Onward size p r := by
  refine ⟨Nat.le_trans h.1 h'.1, fun _ => ?_⟩
  rcases Nat.lt_or_ge q r with hlt | hge
  · exact h'.2 hlt
  · obtain rfl : q = r := Nat.le_antisymm h'.1 hge
    exact h.2 ‹_›

theorem closure {R : Nat → Nat → Prop} (hR : ∀ p q, R p q → Onward size p q) :
    ∀ (quantifier : Quantifier) {p q}, quantifier.closure R p q → Onward size p q := by
  have star : ∀ {p q}, ReflTransGen R p q → Onward size p q := by
    intro p q h
    induction h using ReflTransGen.head_induction_on with
    | refl => exact refl size q
    | head hstep _ ih => exact (hR _ _ hstep).trans ih
  intro quantifier p q h
  cases quantifier with
  | optional =>
    rcases h with rfl | h
    · exact refl size p
    · exact hR p q h
  | many => exact star h
  | some =>
    obtain ⟨m, hpm, hmq⟩ := h
    exact (hR p m hpm).trans (star hmq)

end Onward

mutual

theorem Node.meaning_onward (elements : List Element) :
    ∀ (n : Node) {p q : Nat}, n.meaning elements p q → Onward elements.length p q
  | .element m, p, q, h => by
    obtain ⟨rfl, e, he, -⟩ := h
    obtain ⟨hp, -⟩ := List.getElem?_eq_some_iff.mp he
    exact ⟨Nat.le_succ p, fun _ => hp⟩
  | .start, p, q, h => by
    obtain ⟨-, rfl⟩ := h
    exact Onward.refl _ _
  | .stop, p, q, h => by
    obtain ⟨-, rfl⟩ := h
    exact Onward.refl _ _
  | .alternatives branches, p, q, h => branchesMeaning_onward elements branches h
  | .repeated node quantifier, p, q, h =>
    Onward.closure (fun _ _ => Node.meaning_onward elements node) quantifier h

theorem branchesMeaning_onward (elements : List Element) :
    ∀ (branches : List (List Node)) {p q : Nat},
      branchesMeaning elements branches p q → Onward elements.length p q
  | [], p, q, h => h.elim
  | branch :: rest, p, q, h => by
    rcases h with h | h
    · exact sequenceMeaning_onward elements branch h
    · exact branchesMeaning_onward elements rest h

theorem sequenceMeaning_onward (elements : List Element) :
    ∀ (nodes : List Node) {p q : Nat},
      sequenceMeaning elements nodes p q → Onward elements.length p q
  | [], p, q, h => by
    obtain rfl : p = q := h
    exact Onward.refl _ _
  | node :: rest, p, q, h => by
    obtain ⟨m, hpm, hmq⟩ := h
    exact (Node.meaning_onward elements node hpm).trans (sequenceMeaning_onward elements rest hmq)

end

/-- A match from a position of the elements ends at a position of the elements. -/
theorem Node.meaning_le {elements : List Element} {n : Node} {p q : Nat}
    (h : n.meaning elements p q) (hp : p ≤ elements.length) : p ≤ q ∧ q ≤ elements.length := by
  obtain ⟨hle, hsize⟩ := n.meaning_onward elements h
  refine ⟨hle, ?_⟩
  rcases Nat.lt_or_ge p q with hlt | hge
  · exact hsize hlt
  · exact Nat.le_trans hge hp

/-! ### Matches in a part of the elements -/

section Window

variable {start stop : Nat}

/-- A closure between two positions is a closure of the steps between them, with the
positions counted from the first of them. -/
theorem closure_window {R S : Nat → Nat → Prop} {size : Nat}
    (hR : ∀ p q, R p q → Onward size p q)
    (hS : ∀ p q, start ≤ p → q ≤ stop → R p q → S (p - start) (q - start)) :
    ∀ (quantifier : Quantifier) {p q : Nat}, start ≤ p → q ≤ stop → quantifier.closure R p q →
      quantifier.closure S (p - start) (q - start) := by
  have star : ∀ {p q}, start ≤ p → q ≤ stop → ReflTransGen R p q →
      ReflTransGen S (p - start) (q - start) := by
    intro p q hp hq h
    induction h using ReflTransGen.head_induction_on with
    | refl => exact .refl
    | @head p m hpm hmq ih =>
      have hm : m ≤ q := (Onward.closure hR .many hmq).1
      exact .head (hS p m hp (Nat.le_trans hm hq) hpm) (ih (Nat.le_trans hp (hR p m hpm).1))
  intro quantifier p q hp hq h
  cases quantifier with
  | optional =>
    rcases h with rfl | h
    · exact Or.inl rfl
    · exact Or.inr (hS p q hp hq h)
  | many => exact star hp hq h
  | some =>
    obtain ⟨m, hpm, hmq⟩ := h
    have hm : m ≤ q := (Onward.closure hR .many hmq).1
    exact ⟨m - start, hS p m hp (Nat.le_trans hm hq) hpm,
      star (Nat.le_trans hp (hR p m hpm).1) hq hmq⟩

variable {elements : List Element}

mutual

/-- A match that lies in a part of the elements is a match of that part. -/
theorem Node.meaning_window (hstop : stop ≤ elements.length) :
    ∀ (n : Node) {p q : Nat}, start ≤ p → q ≤ stop → n.meaning elements p q →
      n.meaning ((elements.take stop).drop start) (p - start) (q - start)
  | .element m, p, q, hp, hq, h => by
    obtain ⟨rfl, e, he, ha⟩ := h
    refine ⟨by omega, e, ?_, ha⟩
    rw [List.getElem?_drop, Nat.add_sub_cancel' hp, List.getElem?_take_of_lt (by omega), he]
  | .start, p, q, hp, hq, h => by
    obtain ⟨rfl, rfl⟩ := h
    exact ⟨Nat.zero_sub start, rfl⟩
  | .stop, p, q, hp, hq, h => by
    obtain ⟨rfl, rfl⟩ := h
    refine ⟨?_, rfl⟩
    rw [List.length_drop, List.length_take, Nat.min_eq_left hstop, Nat.le_antisymm hstop hq]
  | .alternatives branches, p, q, hp, hq, h => branchesMeaning_window hstop branches hp hq h
  | .repeated node quantifier, p, q, hp, hq, h =>
    closure_window (fun _ _ => node.meaning_onward elements)
      (fun _ _ hp hq => Node.meaning_window hstop node hp hq) quantifier hp hq h

theorem branchesMeaning_window (hstop : stop ≤ elements.length) :
    ∀ (branches : List (List Node)) {p q : Nat}, start ≤ p → q ≤ stop →
      branchesMeaning elements branches p q →
      branchesMeaning ((elements.take stop).drop start) branches (p - start) (q - start)
  | [], p, q, _, _, h => h.elim
  | branch :: rest, p, q, hp, hq, h => by
    rcases h with h | h
    · exact Or.inl (sequenceMeaning_window hstop branch hp hq h)
    · exact Or.inr (branchesMeaning_window hstop rest hp hq h)

theorem sequenceMeaning_window (hstop : stop ≤ elements.length) :
    ∀ (nodes : List Node) {p q : Nat}, start ≤ p → q ≤ stop →
      sequenceMeaning elements nodes p q →
      sequenceMeaning ((elements.take stop).drop start) nodes (p - start) (q - start)
  | [], p, q, _, _, h => by
    obtain rfl : p = q := h
    exact rfl
  | node :: rest, p, q, hp, hq, h => by
    obtain ⟨m, hpm, hmq⟩ := h
    have hpm' : p ≤ m := (node.meaning_onward elements hpm).1
    have hmq' : m ≤ q := (sequenceMeaning_onward elements rest hmq).1
    exact ⟨m - start, Node.meaning_window hstop node hp (Nat.le_trans hmq' hq) hpm,
      sequenceMeaning_window hstop rest (Nat.le_trans hp hpm') hq hmq⟩

end

end Window

end Phonex

end PhoneticSearch
