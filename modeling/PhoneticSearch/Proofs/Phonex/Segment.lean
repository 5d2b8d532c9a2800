import PhoneticSearch.Proofs.Phonex.Ends

/-!
# Expressions without boundaries

An expression that asks for no start, stop or word boundary matches phones and nothing
else (`Node.isBoundaryFree`).  Such an expression does not see where it is: from a position
in a part of the elements it finds what it finds in the part alone, in the same order, as
long as no phone follows the part (`Node.ends_segment`).
-/

namespace PhoneticSearch.Phonex

mutual

/-- Whether an expression asks for phones only. -/
def Node.isBoundaryFree : Node → Bool
  | .element (.phone _) => true
  | .element .wordBoundary => false
  | .alternatives branches => branchesBoundaryFree branches
  | .repeated node _ => node.isBoundaryFree
  | .start => false
  | .stop => false

/-- Whether the branches ask for phones only. -/
def branchesBoundaryFree : List (List Node) → Bool
  | [] => true
  | branch :: rest => sequenceBoundaryFree branch && branchesBoundaryFree rest

/-- Whether the items of a sequence ask for phones only. -/
def sequenceBoundaryFree : List Node → Bool
  | [] => true
  | node :: rest => node.isBoundaryFree && sequenceBoundaryFree rest

end

/-! ### Positions moved to the right -/

section Moved

variable (b : Nat)

theorem add_beq_add (c a : Nat) : (b + c == b + a) = (c == a) := by
  rw [Bool.eq_iff_iff]
  simp

theorem eraseDups_map_add : ∀ l : List Nat, (l.map (b + ·)).eraseDups = l.eraseDups.map (b + ·)
  | [] => rfl
  | a :: l => by
    have := List.length_filter_le (fun c => !c == a) l
    have hfilter : (l.map (b + ·)).filter (fun c => !c == b + a) =
        (l.filter fun c => !c == a).map (b + ·) := by
      rw [List.filter_map]
      refine congrArg (List.map _) (List.filter_congr fun c _ => ?_)
      rw [Function.comp_apply, add_beq_add]
    rw [List.map_cons, List.eraseDups_cons, List.eraseDups_cons, List.map_cons, hfilter,
      eraseDups_map_add (l.filter fun c => !c == a)]
termination_by l => l.length
decreasing_by
  rw [List.length_cons]
  omega

/-- Items whose lists are moved give a list that is moved. -/
theorem flatMap_moved {f f' : Nat → List Nat} {l : List Nat}
    (h : ∀ m ∈ l, f' (b + m) = (f m).map (b + ·)) :
    (l.map (b + ·)).flatMap f' = (l.flatMap f).map (b + ·) := by
  induction l with
  | nil => rfl
  | cons m l ih =>
    rw [List.map_cons, List.flatMap_cons, List.flatMap_cons, List.map_append,
      h m List.mem_cons_self, ih fun m hm => h m (List.mem_cons_of_mem _ hm)]

variable {b} {step step' : Nat → List Nat} {q : Quantifier}

theorem repeatOnce_moved {later later' : Nat → List Nat} {count p : Nat}
    (hstep : step' (b + p) = (step p).map (b + ·))
    (hlater : ∀ m ∈ step p, m ≠ p → later' (b + m) = (later m).map (b + ·)) :
    repeatOnce step' q count (b + p) later' = (repeatOnce step q count p later).map (b + ·) := by
  have hnext : nextEnds step' q count (b + p) = (nextEnds step q count p).map (b + ·) := by
    unfold nextEnds
    split
    · exact hstep
    · rfl
  have honward : (nextEnds step' q count (b + p)).filter (· != b + p) =
      ((nextEnds step q count p).filter (· != p)).map (b + ·) := by
    rw [hnext, List.filter_map]
    refine congrArg (List.map _) (List.filter_congr fun m _ => ?_)
    rw [Function.comp_apply, bne, bne, add_beq_add]
  have hstays : (nextEnds step' q count (b + p)).contains (b + p) =
      (nextEnds step q count p).contains p := by
    rw [hnext]
    simp
  have hflat : ((nextEnds step' q count (b + p)).filter (· != b + p)).flatMap later' =
      (((nextEnds step q count p).filter (· != p)).flatMap later).map (b + ·) := by
    rw [honward]
    refine flatMap_moved b fun m hm => ?_
    obtain ⟨hm, hne⟩ := List.mem_filter.mp hm
    exact hlater m (mem_nextEnds.mp hm).2 (by simpa using hne)
  simp only [repeatOnce]
  rw [hflat, hstays, ← eraseDups_map_add, List.map_append]
  split <;> rfl

/-- A repetition of moved steps is the repetition moved, whatever the bounds on the steps
are. -/
theorem repeatEnds_moved {size size' : Nat} (hstep : StepsOnward size step)
    (hstep' : StepsOnward size' step')
    (hmoved : ∀ p ≤ size, step' (b + p) = (step p).map (b + ·)) {left left' count p : Nat}
    (hp : p ≤ size) (hleft : size - p ≤ left) (hleft' : size' - (b + p) ≤ left') :
    repeatEnds step' q left' count (b + p) = (repeatEnds step q left count p).map (b + ·) := by
  induction hmeasure : size - p using Nat.strongRecOn generalizing left left' count p with
  | ind measure ih =>
    rw [repeatEnds_eq hstep hleft, repeatEnds_eq hstep' hleft']
    refine repeatOnce_moved (hmoved p hp) fun m hm hne => ?_
    have hfewer := hstep.fewer_left hm hne
    obtain ⟨hle, hsize⟩ := hstep p m hm
    exact ih (size - m) (by omega) (hsize (by omega)) (Nat.le_refl _) (Nat.le_refl _) rfl

end Moved

/-! ### A part of the elements -/

/-- Whether no phone is in front of some elements. -/
def NoPhoneFirst (after : List Element) : Prop := ∀ e ∈ after.head?, e.isPhone = false

section Segment

variable {before part after : List Element}

/-- The ends in a part are positions of the part. -/
theorem Node.ends_le {n : Node} {p m : Nat} (hp : p ≤ part.length) (hm : m ∈ n.ends part p) :
    m ≤ part.length :=
  (Node.meaning_le ((n.mem_ends part).mp hm) hp).2

mutual

/-- From a position in a part of the elements an expression without boundaries finds what
it finds in the part alone, if no phone follows the part. -/
theorem Node.ends_segment (hafter : NoPhoneFirst after) : ∀ (n : Node), n.isBoundaryFree = true →
    ∀ {p : Nat}, p ≤ part.length →
      n.ends (before ++ part ++ after) (before.length + p) =
        (n.ends part p).map (before.length + ·)
  | .element (.phone m), _, p, hp => by
    have hget : (before ++ part ++ after)[before.length + p]? = (part ++ after)[p]? := by
      rw [List.append_assoc, List.getElem?_append_right (Nat.le_add_right _ _),
        Nat.add_sub_cancel_left]
    simp only [Node.ends, hget]
    rcases Nat.lt_or_eq_of_le hp with hlt | rfl
    · rw [List.getElem?_append_left hlt]
      cases part[p]? with
      | none => rfl
      | some e => by_cases haccepts : (ElementMatcher.phone m).accepts e = true <;>
          simp [haccepts, Nat.add_assoc]
    · -- Behind the part there is nothing, or an element that is no phone.
      rw [List.getElem?_append_right (Nat.le_refl _), Nat.sub_self, ← List.head?_eq_getElem?,
        List.getElem?_eq_none (Nat.le_refl _)]
      cases hhead : after.head? with
      | none => rfl
      | some e =>
        have he : e.isPhone = false := hafter e hhead
        cases e with
        | phone p => cases he
        | stress _ | syllableBoundary | wordBoundary | pause _ => rfl
  | .element .wordBoundary, hfree, _, _ => by cases hfree
  | .start, hfree, _, _ => by cases hfree
  | .stop, hfree, _, _ => by cases hfree
  | .alternatives branches, hfree, p, hp => by
    rw [Node.ends, Node.ends, branchesEnds_segment hafter branches hfree hp, eraseDups_map_add]
  | .repeated node q, hfree, p, hp => by
    rw [Node.ends, Node.ends]
    exact repeatEnds_moved (node.stepsOnward part) (node.stepsOnward _)
      (fun p hp => Node.ends_segment hafter node hfree hp) hp (Nat.le_refl _) (Nat.le_refl _)

theorem branchesEnds_segment (hafter : NoPhoneFirst after) : ∀ (branches : List (List Node)),
    branchesBoundaryFree branches = true → ∀ {p : Nat}, p ≤ part.length →
      branchesEnds (before ++ part ++ after) branches (before.length + p) =
        (branchesEnds part branches p).map (before.length + ·)
  | [], _, _, _ => rfl
  | branch :: rest, hfree, p, hp => by
    rw [branchesBoundaryFree, Bool.and_eq_true] at hfree
    rw [branchesEnds, branchesEnds, List.map_append, sequenceEnds_segment hafter branch hfree.1 hp,
      branchesEnds_segment hafter rest hfree.2 hp]

theorem sequenceEnds_segment (hafter : NoPhoneFirst after) : ∀ (nodes : List Node),
    sequenceBoundaryFree nodes = true → ∀ {p : Nat}, p ≤ part.length →
      sequenceEnds (before ++ part ++ after) nodes (before.length + p) =
        (sequenceEnds part nodes p).map (before.length + ·)
  | [], _, _, _ => rfl
  | node :: rest, hfree, p, hp => by
    rw [sequenceBoundaryFree, Bool.and_eq_true] at hfree
    rw [sequenceEnds, sequenceEnds, Node.ends_segment hafter node hfree.1 hp, ← eraseDups_map_add]
    refine congrArg List.eraseDups (flatMap_moved _ fun m hm => ?_)
    exact sequenceEnds_segment hafter rest hfree.2 (Node.ends_le hp hm)

end

end Segment

end PhoneticSearch.Phonex
