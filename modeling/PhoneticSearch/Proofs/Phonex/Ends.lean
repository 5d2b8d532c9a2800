import PhoneticSearch.Pattern.Phonex.Ends
import PhoneticSearch.Proofs.Phonex.Meaning

/-!
# The ends are those of the meaning

`Node.ends` lists where matches end, each end once, and `Node.meaning` says where they
may end.  `Node.mem_ends` is their agreement.

The matcher takes three liberties in a repetition.  It does not follow a repetition
that stays where it is, it lets the position itself count as an end where one stays,
and it bounds the steps by the elements that are left.  The first two are a law of
closures (`Quantifier.after_iff`): a step that stays adds nothing but the place it
stays at.  The last one never bites, as a step that moves on uses up an element
(`repeatEnds_eq`).
-/

namespace PhoneticSearch

open Relation

namespace Quantifier

variable {R : Nat → Nat → Prop}

/-- The relation of what may follow a number of repetitions. -/
def after (R : Nat → Nat → Prop) : Quantifier → (count : Nat) → Nat → Nat → Prop
  | .optional, 0 => fun p q => p = q ∨ R p q
  | .optional, _ + 1 => Eq
  | .many, _ => ReflTransGen R
  | .some, 0 => Comp R (ReflTransGen R)
  | .some, _ + 1 => ReflTransGen R

theorem after_zero (quantifier : Quantifier) : quantifier.after R 0 = quantifier.closure R := by
  cases quantifier <;> rfl

/-- A chain of steps stays, or its first step that moves leads on. -/
theorem reflTransGen_iff_moves {p r : Nat} :
    ReflTransGen R p r ↔ (∃ m, m ≠ p ∧ R p m ∧ ReflTransGen R m r) ∨ p = r := by
  constructor
  · intro h
    induction h using ReflTransGen.head_induction_on with
    | refl => exact Or.inr rfl
    | @head p m hstep hrest ih =>
      by_cases hm : m = p
      · subst hm
        exact ih
      · exact Or.inl ⟨m, hm, hstep, hrest⟩
  · rintro (⟨m, -, hstep, hrest⟩ | rfl)
    · exact .head hstep hrest
    · exact .refl

/-- A chain of at least one step stays by a step that stays, or its first step that
moves leads on. -/
theorem comp_reflTransGen_iff_moves {p r : Nat} :
    Comp R (ReflTransGen R) p r ↔
      (∃ m, m ≠ p ∧ R p m ∧ ReflTransGen R m r) ∨ p = r ∧ R p p := by
  constructor
  · rintro ⟨m, hstep, hrest⟩
    by_cases hm : m = p
    · subst hm
      rcases reflTransGen_iff_moves.mp hrest with h | rfl
      · exact Or.inl h
      · exact Or.inr ⟨rfl, hstep⟩
    · exact Or.inl ⟨m, hm, hstep, hrest⟩
  · rintro (⟨m, -, hstep, hrest⟩ | ⟨rfl, hstep⟩)
    · exact ⟨m, hstep, hrest⟩
    · exact ⟨p, hstep, .refl⟩

/-- What may follow a number of repetitions: one more that moves and what may follow it,
or nothing, where there are enough of them or one more stays. -/
theorem after_iff (quantifier : Quantifier) (count p r : Nat) :
    quantifier.after R count p r ↔
      (quantifier.allowsAfter count = true ∧
        ∃ m, m ≠ p ∧ R p m ∧ quantifier.after R (count + 1) m r) ∨
      p = r ∧ (quantifier.least ≤ count ∨ quantifier.allowsAfter count = true ∧ R p p) := by
  match quantifier, count with
  | .optional, 0 =>
    simp only [after, allowsAfter, greatest, least]
    constructor
    · rintro (rfl | h)
      · exact Or.inr ⟨rfl, Or.inl (Nat.le_refl 0)⟩
      · by_cases hr : r = p
        · exact Or.inr ⟨hr.symm, Or.inl (Nat.le_refl 0)⟩
        · exact Or.inl ⟨by decide, r, hr, h, rfl⟩
    · rintro (⟨-, m, -, h, rfl⟩ | ⟨rfl, -⟩)
      · exact Or.inr h
      · exact Or.inl rfl
  | .optional, count + 1 => simp [after, allowsAfter, greatest, least]
  | .many, count => simp [after, allowsAfter, greatest, least, ← reflTransGen_iff_moves]
  | .some, 0 => simp [after, allowsAfter, greatest, least, ← comp_reflTransGen_iff_moves]
  | .some, count + 1 => simp [after, allowsAfter, greatest, least, ← reflTransGen_iff_moves]

end Quantifier

namespace Phonex

/-! ### Repetitions -/

section Repetition

variable {size : Nat} {step : Nat → List Nat} {q : Quantifier}

/-- Where one more repetition ends, if there may be one. -/
def nextEnds (step : Nat → List Nat) (q : Quantifier) (count position : Nat) : List Nat :=
  if q.allowsAfter count then step position else []

theorem mem_nextEnds {count position m : Nat} :
    m ∈ nextEnds step q count position ↔ q.allowsAfter count = true ∧ m ∈ step position := by
  unfold nextEnds
  split <;> simp_all

/-- What a repetition finds, where `later` is found after one more of it. -/
def repeatOnce (step : Nat → List Nat) (q : Quantifier) (count position : Nat)
    (later : Nat → List Nat) : List Nat :=
  let ends := nextEnds step q count position
  ((ends.filter (· != position)).flatMap later ++
    if q.least ≤ count || ends.contains position then [position] else []).eraseDups

theorem mem_repeatOnce {count position r : Nat} {later : Nat → List Nat} :
    r ∈ repeatOnce step q count position later ↔
      (q.allowsAfter count = true ∧ ∃ m, m ≠ position ∧ m ∈ step position ∧ r ∈ later m) ∨
      position = r ∧
        (q.least ≤ count ∨ q.allowsAfter count = true ∧ position ∈ step position) := by
  unfold repeatOnce
  rw [List.mem_eraseDups, List.mem_append, List.mem_flatMap]
  refine or_congr ?_ ?_
  · simp only [List.mem_filter, mem_nextEnds, bne_iff_ne]
    constructor
    · rintro ⟨m, ⟨⟨hallows, hm⟩, hne⟩, hr⟩
      exact ⟨hallows, m, hne, hm, hr⟩
    · rintro ⟨hallows, m, hne, hm, hr⟩
      exact ⟨m, ⟨⟨hallows, hm⟩, hne⟩, hr⟩
  · rw [← mem_nextEnds]
    split
    · rename_i h
      simp only [Bool.or_eq_true, decide_eq_true_eq, List.contains_iff_mem] at h
      simp [h, eq_comm]
    · rename_i h
      simp only [Bool.or_eq_true, decide_eq_true_eq, List.contains_iff_mem] at h
      simp [h]

/-- Only what is found after the ends that move on counts. -/
theorem repeatOnce_congr {count position : Nat} {later later' : Nat → List Nat}
    (h : ∀ m ∈ step position, m ≠ position → later m = later' m) :
    repeatOnce step q count position later = repeatOnce step q count position later' := by
  have hflat : (((nextEnds step q count position).filter (· != position)).flatMap later) =
      ((nextEnds step q count position).filter (· != position)).flatMap later' := by
    rw [List.flatMap_def, List.flatMap_def]
    refine congrArg List.flatten (List.map_congr_left fun m hm => ?_)
    obtain ⟨hmem, hne⟩ := List.mem_filter.mp hm
    exact h m (mem_nextEnds.mp hmem).2 (by simpa using hne)
  unfold repeatOnce
  simp only [hflat]

theorem repeatEnds_zero (count position : Nat) :
    repeatEnds step q 0 count position = repeatOnce step q count position fun _ => [] := by
  have hflat : ∀ ends : List Nat, (ends.flatMap fun _ => []) = ([] : List Nat) :=
    fun _ => List.flatMap_eq_nil_iff.mpr fun _ _ => rfl
  simp only [repeatOnce, hflat]
  rfl

theorem repeatEnds_succ (left count position : Nat) :
    repeatEnds step q (left + 1) count position =
      repeatOnce step q count position (repeatEnds step q left (count + 1)) := rfl

/-- The steps of what is repeated move on or stay. -/
def StepsOnward (size : Nat) (step : Nat → List Nat) : Prop :=
  ∀ p, ∀ m ∈ step p, Onward size p m

/-- What moves on has fewer elements left. -/
theorem StepsOnward.fewer_left (hstep : StepsOnward size step) {position m : Nat}
    (hm : m ∈ step position) (hne : m ≠ position) : size - m < size - position := by
  obtain ⟨hle, hsize⟩ := hstep position m hm
  have := hsize (by omega)
  omega

/-- The bound on the steps does not matter, as long as the elements that are left fit
into it. -/
theorem repeatEnds_left (hstep : StepsOnward size step) :
    ∀ {left left' : Nat} (count position : Nat), size - position ≤ left → size - position ≤ left' →
      repeatEnds step q left count position = repeatEnds step q left' count position := by
  intro left
  induction left with
  | zero =>
    intro left' count position hleft _
    cases left' with
    | zero => rfl
    | succ left' =>
      rw [repeatEnds_zero, repeatEnds_succ]
      refine repeatOnce_congr fun m hm hne => ?_
      have := hstep.fewer_left hm hne
      omega
  | succ left ih =>
    intro left' count position hleft hleft'
    cases left' with
    | zero =>
      rw [repeatEnds_zero, repeatEnds_succ]
      refine repeatOnce_congr fun m hm hne => ?_
      have := hstep.fewer_left hm hne
      omega
    | succ left' =>
      rw [repeatEnds_succ, repeatEnds_succ]
      refine repeatOnce_congr fun m hm hne => ?_
      have := hstep.fewer_left hm hne
      exact ih (count + 1) m (by omega) (by omega)

/-- The recursion of a repetition, without a bound on the steps. -/
theorem repeatEnds_eq (hstep : StepsOnward size step) {left count position : Nat}
    (hleft : size - position ≤ left) :
    repeatEnds step q left count position =
      repeatOnce step q count position fun m => repeatEnds step q (size - m) (count + 1) m := by
  rw [repeatEnds_left hstep count position hleft (Nat.le_succ_of_le hleft), repeatEnds_succ]
  refine repeatOnce_congr fun m hm hne => ?_
  have := hstep.fewer_left hm hne
  exact repeatEnds_left hstep (count + 1) m (by omega) (Nat.le_refl _)

/-- A repetition without a greatest number goes on alike from the least number on. -/
theorem repeatEnds_least (hq : q.greatest = none) (left : Nat) :
    ∀ {count : Nat} (position : Nat), q.least ≤ count →
      repeatEnds step q left count position = repeatEnds step q left q.least position := by
  have next : ∀ count, nextEnds step q count = step := by
    intro count
    funext position
    simp [nextEnds, Quantifier.allowsAfter, hq]
  have once : ∀ {count : Nat} (position : Nat) (later : Nat → List Nat), q.least ≤ count →
      repeatOnce step q count position later = repeatOnce step q q.least position later := by
    intro count position later hcount
    simp [repeatOnce, next, hcount]
  induction left with
  | zero =>
    intro count position hcount
    rw [repeatEnds_zero, repeatEnds_zero, once position _ hcount]
  | succ left ih =>
    intro count position hcount
    rw [repeatEnds_succ, repeatEnds_succ, once position _ hcount]
    refine repeatOnce_congr fun m _ _ => ?_
    rw [ih m (Nat.le_succ_of_le hcount), ih m (Nat.le_succ _)]

/-- A repetition finds what may follow the repetitions before it. -/
theorem mem_repeatEnds {R : Nat → Nat → Prop} (hR : ∀ p m, m ∈ step p ↔ R p m)
    (hstep : StepsOnward size step) {left count position r : Nat}
    (hleft : size - position ≤ left) :
    r ∈ repeatEnds step q left count position ↔ q.after R count position r := by
  induction hmeasure : size - position using Nat.strongRecOn
    generalizing left count position with
  | ind measure ih =>
    rw [repeatEnds_eq hstep hleft, mem_repeatOnce, Quantifier.after_iff, ← hR position position]
    refine or_congr (and_congr Iff.rfl (exists_congr fun m => ?_)) Iff.rfl
    refine and_congr_right fun hne => ?_
    rw [← hR position m]
    refine and_congr_right fun hm => ?_
    have := hstep.fewer_left hm hne
    exact ih (size - m) (by omega) (Nat.le_refl _) rfl

end Repetition

/-! ### Nodes -/

mutual

/-- The ends of a node are those of its meaning. -/
theorem Node.mem_ends (elements : List Element) :
    ∀ (n : Node) {p r : Nat}, r ∈ n.ends elements p ↔ n.meaning elements p r
  | .element m, p, r => by
    simp only [Node.ends, Node.meaning]
    cases he : elements[p]? with
    | none => simp
    | some e => by_cases ha : m.accepts e = true <;> simp [ha]
  | .start, p, r => by
    rw [Node.ends, Node.meaning]
    by_cases hp : p = 0 <;> simp [hp]
  | .stop, p, r => by
    rw [Node.ends, Node.meaning]
    by_cases hp : p = elements.length <;> simp [hp]
  | .alternatives branches, p, r => by
    rw [Node.ends, Node.meaning, List.mem_eraseDups]
    exact mem_branchesEnds elements branches
  | .repeated node q, p, r => by
    have hstep : StepsOnward elements.length (node.ends elements) := fun p m hm =>
      node.meaning_onward elements ((Node.mem_ends elements node).mp hm)
    rw [Node.ends, Node.meaning, ← Quantifier.after_zero]
    exact mem_repeatEnds (fun _ _ => Node.mem_ends elements node) hstep (Nat.le_refl _)

theorem mem_branchesEnds (elements : List Element) :
    ∀ (branches : List (List Node)) {p r : Nat},
      r ∈ branchesEnds elements branches p ↔ branchesMeaning elements branches p r
  | [], p, r => by simp [branchesEnds, branchesMeaning]
  | branch :: rest, p, r => by
    rw [branchesEnds, branchesMeaning, List.mem_append]
    exact or_congr (mem_sequenceEnds elements branch) (mem_branchesEnds elements rest)

theorem mem_sequenceEnds (elements : List Element) :
    ∀ (nodes : List Node) {p r : Nat},
      r ∈ sequenceEnds elements nodes p ↔ sequenceMeaning elements nodes p r
  | [], p, r => by simp [sequenceEnds, sequenceMeaning, eq_comm]
  | node :: rest, p, r => by
    rw [sequenceEnds, sequenceMeaning, List.mem_eraseDups, List.mem_flatMap]
    exact exists_congr fun m =>
      and_congr (Node.mem_ends elements node) (mem_sequenceEnds elements rest)

end

theorem Node.stepsOnward (elements : List Element) (n : Node) :
    StepsOnward elements.length (n.ends elements) := fun _ _ hm =>
  n.meaning_onward elements ((n.mem_ends elements).mp hm)

theorem nodup_eraseDups {α : Type} [BEq α] [LawfulBEq α] : ∀ l : List α, l.eraseDups.Nodup
  | [] => List.nodup_nil
  | a :: l => by
    have := List.length_filter_le (fun b => !b == a) l
    rw [List.eraseDups_cons, List.nodup_cons, List.mem_eraseDups]
    exact ⟨by simp, nodup_eraseDups (l.filter fun b => !b == a)⟩
termination_by l => l.length
decreasing_by
  rw [List.length_cons]
  omega

theorem repeatEnds_nodup (step : Nat → List Nat) (q : Quantifier) (left count position : Nat) :
    (repeatEnds step q left count position).Nodup := by
  cases left with
  | zero => rw [repeatEnds_zero]; exact nodup_eraseDups _
  | succ left => rw [repeatEnds_succ]; exact nodup_eraseDups _

/-- A node lists each end once. -/
theorem Node.ends_nodup (elements : List Element) (n : Node) (p : Nat) :
    (n.ends elements p).Nodup := by
  cases n with
  | element m =>
    rw [Node.ends]
    cases elements[p]? with
    | none => exact List.nodup_nil
    | some e => by_cases ha : m.accepts e = true <;> simp [ha]
  | start => by_cases hp : p = 0 <;> simp [Node.ends, hp]
  | stop => by_cases hp : p = elements.length <;> simp [Node.ends, hp]
  | alternatives branches => rw [Node.ends]; exact nodup_eraseDups _
  | repeated node q => rw [Node.ends]; exact repeatEnds_nodup _ _ _ _ _

end Phonex

end PhoneticSearch
