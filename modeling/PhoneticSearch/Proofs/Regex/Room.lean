import Mathlib.Algebra.Ring.Nat
import PhoneticSearch.Pattern.Regex.Footprint

/-!
# The room of patterns without nested repetitions

A step of writing a pattern out takes some number of bytes, or fails where that is more than there
is room for (`Costs`).  Costs compose by addition (`Costs.bind`).

For texts and sets of ASCII characters, tests of places and greedy repetitions of these (`Flat`) the
costs are the same from the front as from the back: `Pattern.bytes` of each pattern, and the branch
back of each repetition.  Patterns that are joined cost what they cost together (`costs_join`).
-/

namespace PhoneticSearch.Regex

/-! ### Steps that cost bytes -/

/-- Whether a step takes `count` bytes more, and fails if and only if that is beyond the bound. -/
def Costs (step : Footprint → Option Footprint) (count : Nat) : Prop :=
  ∀ f, f.bytes ≤ Footprint.bound → (step f).map (·.bytes) =
    if f.bytes + count ≤ Footprint.bound then some (f.bytes + count) else none

section Steps

variable {step step' : Footprint → Option Footprint} {m n : Nat}

theorem Costs.bind (h : Costs step m) (h' : Costs step' n) :
    Costs (fun f => step f >>= step') (m + n) := by
  intro f hbound
  have hf := h f hbound
  dsimp only
  cases hstep : step f with
  | none =>
    rw [hstep] at hf
    split at hf
    · cases hf
    · rw [if_neg (by omega)]
      rfl
  | some f' =>
    rw [hstep] at hf
    split at hf
    · rename_i hle
      have hbytes : f'.bytes = f.bytes + m := Option.some.inj hf
      show (step' f').map (·.bytes) = _
      rw [h' f' (by omega), hbytes, Nat.add_assoc]
    · cases hf

/-- Costs are those of any step that does the same. -/
theorem Costs.of_eq (h : Costs step m) (hstep : ∀ f, step' f = step f) (hcount : n = m) :
    Costs step' n := by
  obtain rfl : step' = step := funext hstep
  exact hcount ▸ h

theorem costs_addBytes (n : Nat) : Costs (·.addBytes n) n := by
  intro f _
  show (Footprint.addBytes f n).map (·.bytes) = _
  rw [Footprint.addBytes]
  split <;> rfl

theorem costs_addStates (n : Nat) : Costs (·.addStates n) (32 * n) := by
  intro f hbound
  exact costs_addBytes (32 * n) { f with states := f.states + n } hbound

theorem costs_addState (n : Nat) : Costs (·.addState n) (32 + 8 * n) := by
  intro f hbound
  exact costs_addBytes (32 + 8 * n) { f with states := f.states + 1 } hbound

theorem costs_addBranches (n : Nat) : Costs (·.addBranches n) (4 * n) := costs_addBytes (4 * n)

/-- A step of known costs succeeds from the start if and only if they are within the bound. -/
theorem Costs.isSome (h : Costs step m) : (step ⟨0, 0⟩).isSome ↔ m ≤ Footprint.bound := by
  have hstart := h ⟨0, 0⟩ (Nat.zero_le _)
  rw [← Option.isSome_map (f := (·.bytes)), hstart]
  simp

end Steps

/-! ### Patterns -/

namespace Pattern

/-- The bytes that a pattern takes, apart from the branch back of a repetition. -/
def bytes : Pattern → Nat
  | literal t => 32 * t.length
  | set s => 64 + 8 * s.ranges.length
  | place _ => 32
  | repeated body _ none _ => body.bytes + 36
  | repeated body _ (some _) _ => body.bytes + 72
  | _ => 0

/-- The number of branches back that stand at the end of a pattern. -/
def loops : Pattern → Nat
  | repeated _ _ none _ => 1
  | _ => 0

/-- The bytes that patterns take together, with their branches back. -/
def room (ps : List Pattern) : Nat := (ps.map fun p => p.bytes + 4 * p.loops).sum

end Pattern

/-- A text or a set of ASCII characters, a test of a place, or one of these repeated greedily. -/
inductive Flat : Pattern → Prop
  | literal {t : Text} : (∀ c ∈ t, c.toNat < 0x80) → Flat (.literal t)
  | set {s : CharSet} : s.isAscii = true → Flat (.set s)
  | place (p : Place) : Flat (.place p)
  | optional {p : Pattern} : Flat p → p.loops = 0 → Flat (.repeated p 0 (some 1) true)
  | many {p : Pattern} : Flat p → p.loops = 0 → p.takesSomething = true →
    Flat (.repeated p 0 none true)
  | some {p : Pattern} : Flat p → p.loops = 0 → Flat (.repeated p 1 none true)

section Flats

variable {p : Pattern}

theorem length_bytesOf {t : Text} (h : ∀ c ∈ t, c.toNat < 0x80) (d : Direction) :
    (Pattern.bytesOf d t).length = t.length := by
  have hbytes : (t.flatMap fun c => utf8Bytes c.toNat).length = t.length := by
    induction t with
    | nil => rfl
    | cons c t ih =>
      obtain ⟨hc, ht⟩ := List.forall_mem_cons.mp h
      rw [List.flatMap_cons, List.length_append, ih ht, utf8Bytes, if_pos hc,
        List.length_singleton, List.length_cons, Nat.add_comm]
  cases d with
  | forward => exact hbytes
  | backward => exact List.length_reverse.trans hbytes

theorem forkEnds_singleton (d : Direction) (p : Pattern) :
    Pattern.forkEnds d [p] = (p.endsInFork d).toNat := by
  rw [Pattern.forkEnds, List.countP_singleton]
  cases p.endsInFork d <;> rfl

theorem Flat.forkEnds (h : Flat p) (d : Direction) : Pattern.forkEnds d [p] = p.loops := by
  cases h with
  | literal _ | set _ | place _ => rfl
  | optional _ _ => rfl
  | many _ _ htakes =>
    rw [forkEnds_singleton, Pattern.endsInFork, htakes]
    rfl
  | some _ _ => rfl

/-- A flat pattern costs the same from both ends. -/
theorem Flat.costs (h : Flat p) (d : Direction) : Costs (p.addTo d) p.bytes := by
  induction h with
  | @literal t ht =>
    refine (costs_addStates (Pattern.bytesOf d t).length).of_eq (fun f => ?_) ?_
    · rw [Pattern.addTo]
    · rw [length_bytesOf ht, Pattern.bytes]
  | @set s hs =>
    refine ((costs_addState 0).bind (costs_addState s.ranges.length)).of_eq (fun f => ?_) ?_
    · rw [Pattern.addTo, Footprint.addSet.eq_def, if_pos hs]
    · rw [Pattern.bytes]
      omega
  | place _ =>
    refine (costs_addStates 1).of_eq (fun f => ?_) rfl
    rw [Pattern.addTo]
  | @optional p hp hloops ih =>
    refine ((costs_addStates 1).bind (ih.bind ((costs_addStates 1).bind
      (costs_addBranches (2 + p.loops))))).of_eq (fun f => ?_) ?_
    · rw [Pattern.addTo, hp.forkEnds]
    · rw [Pattern.bytes, hloops]
      omega
  | @many p hp hloops htakes ih =>
    refine ((costs_addStates 1).bind (ih.bind (costs_addBranches (1 + p.loops)))).of_eq
      (fun f => ?_) ?_
    · rw [Pattern.addTo, hp.forkEnds, if_pos htakes]
    · rw [Pattern.bytes, hloops]
      omega
  | @some p hp hloops ih =>
    have honce : Costs (fun f => Footprint.repeatStep (p.addTo d) 1 f >>=
        (·.addBranches (p.loops * 0))) (p.bytes + 0) := by
      refine (ih.bind (costs_addBranches (p.loops * 0))).of_eq (fun f => ?_) rfl
      rw [Footprint.repeatStep]
      cases p.addTo d f <;> rfl
    refine (honce.bind ((costs_addStates 1).bind (costs_addBranches (1 + p.loops)))).of_eq
      (fun f => ?_) ?_
    · rw [Pattern.addTo, hp.forkEnds]
    · rw [Pattern.bytes, hloops]

/-! ### Patterns one behind the other -/

section Sequences

variable {ps qs : List Pattern}

@[simp] theorem room_nil : Pattern.room [] = 0 := rfl

theorem room_cons (p : Pattern) (ps : List Pattern) :
    Pattern.room (p :: ps) = p.bytes + 4 * p.loops + Pattern.room ps := by
  rw [Pattern.room, List.map_cons, List.sum_cons, ← Pattern.room]

theorem room_append (ps qs : List Pattern) :
    Pattern.room (ps ++ qs) = Pattern.room ps + Pattern.room qs := by
  rw [Pattern.room, List.map_append, List.sum_append, ← Pattern.room, ← Pattern.room]

theorem room_followedBy (p : Pattern) (ps : List Pattern) :
    Pattern.room (p.followedBy ps) = Pattern.room (p :: ps) := by
  unfold Pattern.followedBy
  split
  · simp only [room_cons, Pattern.bytes, Pattern.loops, List.length_append]
    omega
  · rfl

theorem room_foldr_followedBy (ps : List Pattern) :
    Pattern.room (ps.foldr Pattern.followedBy []) = Pattern.room ps := by
  induction ps with
  | nil => rfl
  | cons p ps ih => rw [List.foldr_cons, room_followedBy, room_cons, ih, room_cons]

theorem Flat.followedBy (hp : Flat p) (hps : ∀ q ∈ ps, Flat q) :
    ∀ q ∈ p.followedBy ps, Flat q := by
  unfold Pattern.followedBy
  split
  · rename_i s t rest
    obtain ⟨ht, hrest⟩ := List.forall_mem_cons.mp hps
    cases hp with
    | literal hs =>
      cases ht with
      | literal ht =>
        refine List.forall_mem_cons.mpr ⟨.literal fun c hc => ?_, hrest⟩
        rcases List.mem_append.mp hc with hc | hc
        · exact hs c hc
        · exact ht c hc
  · exact List.forall_mem_cons.mpr ⟨hp, hps⟩

theorem flat_foldr_followedBy (h : ∀ p ∈ ps, Flat p) :
    ∀ p ∈ ps.foldr Pattern.followedBy [], Flat p := by
  induction ps with
  | nil => exact h
  | cons p ps ih =>
    obtain ⟨hp, hps⟩ := List.forall_mem_cons.mp h
    exact hp.followedBy (ih hps)

theorem followedBy_ne_nil (p : Pattern) (ps : List Pattern) : p.followedBy ps ≠ [] := by
  unfold Pattern.followedBy
  split <;> nofun

/-- Flat patterns one behind the other cost what each of them costs, and the branches back of all
but the one that is read last. -/
theorem costs_addSequence (d : Direction) (hne : ps ≠ []) (h : ∀ p ∈ ps, Flat p) :
    ∃ count, Costs (Pattern.addSequence d ps) count ∧
      count + 4 * Pattern.forkEnds d [.sequence ps] = Pattern.room ps := by
  induction ps with
  | nil => exact absurd rfl hne
  | cons p ps ih =>
    obtain ⟨hp, hps⟩ := List.forall_mem_cons.mp h
    cases ps with
    | nil =>
      have hends : Pattern.forkEnds d [.sequence [p]] = Pattern.forkEnds d [p] := by
        cases d with
        | forward => simp only [forkEnds_singleton, Pattern.endsInFork, Pattern.lastEndsInFork]
        | backward => simp only [forkEnds_singleton, Pattern.endsInFork, Pattern.firstEndsInFork]
      refine ⟨p.bytes, (hp.costs d).of_eq (fun f => ?_) rfl, ?_⟩
      · rw [Pattern.addSequence]
      · rw [hends, hp.forkEnds, room_cons, room_nil, Nat.add_zero]
    | cons q rest =>
      obtain ⟨count, hcosts, hroom⟩ := ih (by nofun) hps
      cases d with
      | forward =>
        have hends : Pattern.forkEnds .forward [.sequence (p :: q :: rest)] =
            Pattern.forkEnds .forward [.sequence (q :: rest)] := by
          simp only [forkEnds_singleton, Pattern.endsInFork, Pattern.lastEndsInFork]
        refine ⟨_, ((hp.costs .forward).bind (hcosts.bind (costs_addBranches p.loops))).of_eq
          (fun f => ?_) rfl, ?_⟩
        · rw [Pattern.addSequence, hp.forkEnds]
          nofun
        · rw [hends, room_cons]
          omega
      | backward =>
        have hq := (List.forall_mem_cons.mp hps).1
        have hends : ∀ p rest, Pattern.forkEnds .backward [.sequence (p :: rest)] =
            Pattern.forkEnds .backward [p] := by
          intro p rest
          simp only [forkEnds_singleton, Pattern.endsInFork, Pattern.firstEndsInFork]
        rw [hends, hq.forkEnds] at hroom
        refine ⟨_, (hcosts.bind ((hp.costs .backward).bind (costs_addBranches q.loops))).of_eq
          (fun f => ?_) rfl, ?_⟩
        · rw [Pattern.addSequence, List.take_succ_cons, List.take_zero, hq.forkEnds]
          nofun
        · rw [hends, hp.forkEnds, room_cons]
          omega

theorem Flat.items_eq (h : Flat p) : p.items = [p] := by
  cases h <;> rfl

/-- What is joined is one flat pattern, or a sequence of them. -/
theorem items_join (h : ∀ p ∈ ps.flatMap Pattern.items, Flat p) :
    (Pattern.join ps).items = (ps.flatMap Pattern.items).foldr Pattern.followedBy [] := by
  have hflat := flat_foldr_followedBy h
  rw [Pattern.join]
  split
  · rename_i hnil
    rw [hnil]
    rfl
  · rename_i p hone
    rw [hone] at hflat ⊢
    exact (hflat p (List.mem_singleton_self p)).items_eq
  · rfl

theorem room_items_join (h : ∀ p ∈ ps.flatMap Pattern.items, Flat p) :
    Pattern.room (Pattern.join ps).items = Pattern.room (ps.flatMap Pattern.items) := by
  rw [items_join h, room_foldr_followedBy]

theorem flat_items_join (h : ∀ p ∈ ps.flatMap Pattern.items, Flat p) :
    ∀ p ∈ (Pattern.join ps).items, Flat p := by
  rw [items_join h]
  exact flat_foldr_followedBy h

/-- **The costs of patterns that are joined**, with the branch back at the end, are those of the
patterns together. -/
theorem costs_join (d : Direction) (hne : ps.flatMap Pattern.items ≠ [])
    (h : ∀ p ∈ ps.flatMap Pattern.items, Flat p) :
    ∃ count, Costs ((Pattern.join ps).addTo d) count ∧
      count + 4 * Pattern.forkEnds d [Pattern.join ps] =
        Pattern.room (ps.flatMap Pattern.items) := by
  have hflat := flat_foldr_followedBy h
  have hroom := room_foldr_followedBy (ps.flatMap Pattern.items)
  have hfolded : (ps.flatMap Pattern.items).foldr Pattern.followedBy [] ≠ [] := by
    obtain ⟨p, rest, hcons⟩ := List.exists_cons_of_ne_nil hne
    rw [hcons, List.foldr_cons]
    exact followedBy_ne_nil p _
  rw [Pattern.join, ← hroom]
  split
  · exact absurd ‹_› hfolded
  · rename_i p hone
    rw [hone] at hflat ⊢
    have hp := hflat p (List.mem_singleton_self p)
    refine ⟨p.bytes, hp.costs d, ?_⟩
    rw [hp.forkEnds, room_cons, room_nil, Nat.add_zero]
  · obtain ⟨count, hcosts, hcount⟩ := costs_addSequence d hfolded hflat
    refine ⟨count, hcosts.of_eq (fun f => ?_) rfl, hcount⟩
    rw [Pattern.addTo]

/-! ### Anchors -/

theorem isAnchored_sequence_singleton (d : Direction) (p : Pattern) :
    (Pattern.sequence [p]).isAnchored d = p.isAnchored d := by
  cases d with
  | forward =>
    simp only [Pattern.isAnchored, Pattern.firstAnchored, Bool.and_false, Bool.or_false]
  | backward =>
    simp only [Pattern.isAnchored, Pattern.lastAnchored, Pattern.allTakeNothing, Bool.true_and,
      Bool.false_or]

theorem firstAnchored_followedBy (d : Direction) (p : Pattern) (ps : List Pattern) :
    Pattern.firstAnchored d (p.followedBy ps) = Pattern.firstAnchored d (p :: ps) := by
  unfold Pattern.followedBy
  split
  · simp [Pattern.firstAnchored, Pattern.isAnchored, Pattern.takesNothing]
  · rfl

theorem allTakeNothing_followedBy (p : Pattern) (ps : List Pattern) :
    Pattern.allTakeNothing (p.followedBy ps) = Pattern.allTakeNothing (p :: ps) := by
  unfold Pattern.followedBy
  split
  · simp [Pattern.allTakeNothing, Pattern.takesNothing]
  · rfl

theorem lastAnchored_followedBy (d : Direction) (p : Pattern) (ps : List Pattern) :
    Pattern.lastAnchored d (p.followedBy ps) = Pattern.lastAnchored d (p :: ps) := by
  unfold Pattern.followedBy
  split
  · simp [Pattern.lastAnchored, Pattern.isAnchored]
  · rfl

theorem isAnchored_foldr_followedBy (d : Direction) (ps : List Pattern) :
    (Pattern.sequence (ps.foldr Pattern.followedBy [])).isAnchored d =
      (Pattern.sequence ps).isAnchored d := by
  have hnothing : ∀ ps : List Pattern, Pattern.allTakeNothing (ps.foldr Pattern.followedBy []) =
      Pattern.allTakeNothing ps := by
    intro ps
    induction ps with
    | nil => rfl
    | cons p ps ih =>
      rw [List.foldr_cons, allTakeNothing_followedBy, Pattern.allTakeNothing, ih,
        Pattern.allTakeNothing]
  cases d with
  | forward =>
    simp only [Pattern.isAnchored]
    induction ps with
    | nil => rfl
    | cons p ps ih =>
      rw [List.foldr_cons, firstAnchored_followedBy, Pattern.firstAnchored, ih,
        Pattern.firstAnchored]
  | backward =>
    simp only [Pattern.isAnchored]
    induction ps with
    | nil => rfl
    | cons p ps ih =>
      rw [List.foldr_cons, lastAnchored_followedBy, Pattern.lastAnchored, ih, hnothing,
        Pattern.lastAnchored]

/-- Patterns that are joined are anchored like the sequence of them. -/
theorem isAnchored_join (d : Direction) (ps : List Pattern) :
    (Pattern.join ps).isAnchored d = (Pattern.sequence (ps.flatMap Pattern.items)).isAnchored d := by
  rw [← isAnchored_foldr_followedBy, Pattern.join]
  split
  · rename_i hnil
    rw [hnil]
    cases d <;> rfl
  · rename_i p hone
    rw [hone, isAnchored_sequence_singleton]
  · rfl

/-- A sequence is not anchored where none of its patterns is. -/
theorem isAnchored_sequence_of_not (d : Direction) (h : ∀ p ∈ ps, p.isAnchored d = false) :
    (Pattern.sequence ps).isAnchored d = false := by
  cases d with
  | forward =>
    rw [Pattern.isAnchored]
    induction ps with
    | nil => rfl
    | cons p ps ih =>
      obtain ⟨hp, hps⟩ := List.forall_mem_cons.mp h
      rw [Pattern.firstAnchored, hp, ih hps, Bool.and_false, Bool.or_false]
  | backward =>
    rw [Pattern.isAnchored]
    induction ps with
    | nil => rfl
    | cons p ps ih =>
      obtain ⟨hp, hps⟩ := List.forall_mem_cons.mp h
      rw [Pattern.lastAnchored, hp, ih hps, Bool.and_false, Bool.or_false]

theorem lastAnchored_append (d : Direction) (ps : List Pattern) (hlast : p.isAnchored d = true) :
    Pattern.lastAnchored d (ps ++ [p]) = true := by
  induction ps with
  | nil => rw [List.nil_append, Pattern.lastAnchored, Pattern.allTakeNothing, hlast]; rfl
  | cons q ps ih => rw [List.cons_append, Pattern.lastAnchored, ih, Bool.true_or]

/-! ### Whole expressions -/

/-- The bytes of what skips the characters in front of a match. -/
def skipping : (anchored : Bool) → Nat
  | true => 32
  | false => 112

/-- The bytes of what captures a match, and of the state that accepts. -/
def capturing : Direction → Nat
  | .forward => 96
  | .backward => 32

/-- What is captured costs the pattern, the branch back at its end and the states around it. -/
theorem costs_captured {d : Direction} {count : Nat} (h : Costs (p.addTo d) count) :
    Costs (fun f => (Pattern.group 0 p).addTo d f >>= fun f => f.addStates 1 >>=
        (·.addBranches (if d = .backward then Pattern.forkEnds d [p] else 0)))
      (capturing d + (count + 4 * Pattern.forkEnds d [p])) := by
  cases d with
  | forward =>
    refine (((costs_addStates 1).bind (h.bind ((costs_addStates 1).bind (costs_addBranches
      (Pattern.forkEnds .forward [p]))))).bind ((costs_addStates 1).bind
      (costs_addBranches 0))).of_eq (fun f => ?_) ?_
    · simp only [Pattern.addTo]
      rfl
    · rw [capturing]
      omega
  | backward =>
    refine (h.bind ((costs_addStates 1).bind (costs_addBranches
      (Pattern.forkEnds .backward [p])))).of_eq (fun f => ?_) ?_
    · simp only [Pattern.addTo]
      rfl
    · rw [capturing]
      omega

/-- Whether an expression is within the bound follows from the costs of its pattern. -/
theorem isSome_footprint {d : Direction} {count : Nat} (h : Costs (p.addTo d) count) :
    (p.footprint d).isSome ↔ skipping (p.isAnchored d) + (capturing d +
      (count + 4 * Pattern.forkEnds d [p])) ≤ Footprint.bound := by
  have hcaptured := costs_captured h
  rw [Pattern.footprint]
  cases hanchored : p.isAnchored d with
  | true => exact ((costs_addStates 1).bind hcaptured).isSome
  | false =>
    refine ((costs_addStates 2).bind ((costs_addState 1).bind ((costs_addBranches 2).bind
      hcaptured))).isSome.trans ?_
    rw [skipping]
    omega

/-- **The room for joined patterns.** -/
theorem fits_join (hne : ps.flatMap Pattern.items ≠ [])
    (h : ∀ p ∈ ps.flatMap Pattern.items, Flat p) (anchored : Bool)
    (hanchored : ∀ d, (Pattern.sequence (ps.flatMap Pattern.items)).isAnchored d = anchored) :
    (Pattern.join ps).fits ↔ skipping anchored + (96 + Pattern.room (ps.flatMap Pattern.items)) ≤
      Footprint.bound := by
  obtain ⟨count, hcosts, hroom⟩ := costs_join .forward hne h
  obtain ⟨count', hcosts', hroom'⟩ := costs_join .backward hne h
  have hforward := isSome_footprint hcosts
  have hbackward := isSome_footprint hcosts'
  rw [isAnchored_join, hanchored, hroom, capturing] at hforward
  rw [isAnchored_join, hanchored, hroom', capturing] at hbackward
  -- Capturing costs more, and a match is captured from the front only.
  rw [Pattern.fits, Bool.and_eq_true, hforward, hbackward]
  omega

end Sequences

end Flats

end PhoneticSearch.Regex
