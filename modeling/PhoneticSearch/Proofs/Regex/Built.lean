import PhoneticSearch.Proofs.Regex.Build
import PhoneticSearch.Proofs.Regex.Reach

/-!
# Built automata accept what patterns take

The states of a pattern are built behind those there are already, which they leave as they are
(`grown_build`).  A run that accepts from the entry of a pattern is a run from the state behind the
pattern, after a stretch of the text that the pattern takes (`relates_build`).  So a search for a
pattern finds something if the pattern takes some stretch of the text
(`isSome_search_ofPattern`).
-/

namespace PhoneticSearch.Regex.Automaton

open Relation

/-! ### States that are put behind others -/

/-- Whether some states are built behind others, and how many. -/
structure Grown (states : Array State) (count : Nat) (built : Built) : Prop where
  extend : Extends states built.1
  size : built.1.size = states.size + count

section Growing

variable {states full : Array State} {m n : Nat} {built built' : Built}

theorem grown_zero (states : Array State) (next : Nat) : Grown states 0 (states, next) :=
  ⟨fun _ _ => rfl, rfl⟩

theorem grown_emit (states : Array State) (s : State) : Grown states 1 (emit states s) :=
  ⟨extends_push states s, Array.size_push s⟩

theorem Grown.onto (h : Grown states n built) (hfull : Extends built.1 full) :
    Extends states full :=
  h.extend.trans hfull (by rw [h.size]; exact Nat.le_add_right _ _)

theorem Grown.trans (h : Grown states m built) (h' : Grown built.1 n built') :
    Grown states (m + n) built' :=
  ⟨h.onto h'.extend, by rw [h'.size, h.size, Nat.add_assoc]⟩

theorem grown_repeat {f : Built → Built} (hf : ∀ b, Grown b.1 m (f b)) (b : Built) :
    ∀ n, Grown b.1 (m * n) (Nat.repeat f n b)
  | 0 => grown_zero b.1 b.2
  | n + 1 => by
    rw [Nat.mul_succ]
    exact (grown_repeat hf b n).trans (hf _)

mutual

theorem grown_build : ∀ (p : Pattern) (states : Array State) (next : Nat),
    Grown states p.width (build states next p)
  | .empty, states, next => by
    rw [Pattern.width, build]
    exact grown_zero states next
  | .literal t, states, next => by
    rw [Pattern.width, build]
    induction t with
    | nil => exact grown_zero states next
    | cons c t ih => exact ih.trans (grown_emit _ _)
  | .set s, states, next => by
    rw [Pattern.width, build]
    exact grown_emit states _
  | .place p, states, next => by
    rw [Pattern.width, build]
    exact grown_emit states _
  | .group _ body, states, next => by
    rw [Pattern.width, build]
    exact grown_build body states next
  | .sequence items, states, next => by
    rw [Pattern.width, build]
    exact grown_buildSequence items states next
  | .choice branches, states, next => by
    rw [Pattern.width, build]
    exact grown_buildChoice branches states next
  | .repeated body least none greedy, states, next => by
    have hloop := (grown_build body states (states.size + body.width)).trans
      (grown_emit _ (forkFor greedy
        (build states (states.size + body.width) body).2 next))
    cases least with
    | zero =>
      rw [Pattern.width, build, Nat.zero_max, Nat.mul_one]
      cases hsome : body.takesSomething with
      | true => exact ⟨hloop.extend, hloop.size⟩
      | false => exact hloop.trans (grown_emit _ _)
    | succ others =>
      rw [Pattern.width, build, if_neg fun h => absurd h.1 (Nat.succ_ne_zero others),
        Nat.max_eq_left (Nat.succ_le_succ (Nat.zero_le others)), Nat.mul_succ,
        Nat.add_comm (body.width * others), Nat.add_right_comm]
      exact hloop.trans (grown_repeat (fun b => grown_build body b.1 b.2)
        ((emit _ _).1, (build states (states.size + body.width) body).2) others)
  | .repeated body least (some greatest) greedy, states, next => by
    have honce : ∀ b : Built, Grown b.1 (body.width + 1) (emit (build b.1 b.2 body).1
        (forkFor greedy (build b.1 b.2 body).2 next)) :=
      fun b => (grown_build body b.1 b.2).trans (grown_emit _ _)
    have hwidth : body.width * (least + (greatest - least)) + (greatest - least) =
        (body.width + 1) * (greatest - least) + body.width * least := by
      rw [Nat.mul_add, Nat.add_mul, Nat.one_mul]
      omega
    rw [Pattern.width, build, hwidth]
    exact (grown_repeat honce (states, next) _).trans
      (grown_repeat (fun b => grown_build body b.1 b.2) _ least)

theorem grown_buildSequence : ∀ (ps : List Pattern) (states : Array State) (next : Nat),
    Grown states (Pattern.sequenceWidth ps) (buildSequence states next ps)
  | [], states, next => by
    rw [Pattern.sequenceWidth, buildSequence]
    exact grown_zero states next
  | p :: rest, states, next => by
    rw [Pattern.sequenceWidth, buildSequence, Nat.add_comm]
    exact (grown_buildSequence rest states next).trans (grown_build p _ _)

theorem grown_buildChoice : ∀ (ps : List Pattern) (states : Array State) (next : Nat),
    Grown states (Pattern.choiceWidth ps) (buildChoice states next ps)
  | [], states, next => by
    rw [Pattern.choiceWidth, buildChoice]
    exact grown_emit states _
  | [p], states, next => by
    rw [Pattern.choiceWidth, buildChoice]
    exact grown_build p states next
  | p :: q :: rest, states, next => by
    rw [Pattern.choiceWidth, buildChoice, Nat.add_comm p.width]
    · exact ((grown_buildChoice (q :: rest) states next).trans
        (grown_build p _ next)).trans (grown_emit _ _)
    · exact fun h => by cases h
    · exact fun h => by cases h

end

end Growing

/-! ### Runs through built states -/

/-- Whether the runs that accept from one state are those that accept from another one, after a
stretch of the text between related places. -/
structure Relates (states : Array State) (entry next : Nat) (R : Spot → Spot → Prop) : Prop where
  sound : ∀ {n x}, AcceptsIn states n entry x → ∃ m y, m ≤ n ∧ R x y ∧ AcceptsIn states m next y
  complete : ∀ {x y}, R x y → Accepts states next y → Accepts states entry x

section Relating

variable {states : Array State} {entry middle next more after : Nat} {R S : Spot → Spot → Prop}

theorem Relates.congr (h : Relates states entry next R) (hRS : ∀ x y, R x y ↔ S x y) :
    Relates states entry next S := by
  obtain rfl : R = S := funext fun x => funext fun y => propext (hRS x y)
  exact h

theorem Relates.accepts_iff (h : Relates states entry next R) {x : Spot} :
    Accepts states entry x ↔ ∃ y, R x y ∧ Accepts states next y := by
  constructor
  · rintro ⟨n, hrun⟩
    obtain ⟨m, y, -, hR, hnext⟩ := h.sound hrun
    exact ⟨y, hR, m, hnext⟩
  · rintro ⟨y, hR, haccepts⟩
    exact h.complete hR haccepts

theorem relates_refl (states : Array State) (q : Nat) : Relates states q q Eq := by
  constructor
  · exact fun {n x} hrun => ⟨n, x, Nat.le_refl n, rfl, hrun⟩
  · rintro x y rfl haccepts
    exact haccepts

theorem Relates.comp (h : Relates states entry middle R) (h' : Relates states middle next S) :
    Relates states entry next (Comp R S) := by
  constructor
  · intro n x hrun
    obtain ⟨m, y, hle, hR, hrun⟩ := h.sound hrun
    obtain ⟨k, z, hle', hS, hrun⟩ := h'.sound hrun
    exact ⟨k, z, Nat.le_trans hle' hle, ⟨y, hR, hS⟩, hrun⟩
  · rintro x z ⟨y, hR, hS⟩ haccepts
    exact h.complete hR (h'.complete hS haccepts)

theorem relates_read {s : CharSet} (h : states[entry]? = some (.read s next)) :
    Relates states entry next (Spot.Steps s) := by
  constructor
  · intro n x hrun
    obtain ⟨m, y, rfl, hstep, hnext⟩ := (acceptsIn_read h).mp hrun
    exact ⟨m, y, Nat.le_succ m, hstep, hnext⟩
  · exact fun hstep haccepts => (accepts_read h).mpr ⟨_, hstep, haccepts⟩

theorem relates_test {p : Place} (h : states[entry]? = some (.test p next)) :
    Relates states entry next (Spot.Passes p) := by
  constructor
  · intro n x hrun
    obtain ⟨m, rfl, hpass, hnext⟩ := (acceptsIn_test h).mp hrun
    exact ⟨m, x, Nat.le_succ m, ⟨hpass, rfl⟩, hnext⟩
  · rintro x y ⟨hpass, rfl⟩ haccepts
    exact (accepts_test h).mpr ⟨hpass, haccepts⟩

/-- A run from a fork goes on in one of its two ways, be it the preferred one or not. -/
theorem acceptsIn_forkFor {greedy : Bool} (h : states[entry]? = some (forkFor greedy more after))
    {n : Nat} {x : Spot} : AcceptsIn states n entry x ↔
      ∃ m, n = m + 1 ∧ (AcceptsIn states m more x ∨ AcceptsIn states m after x) := by
  cases greedy with
  | true => exact acceptsIn_fork h
  | false => simp only [acceptsIn_fork h, or_comm]

theorem relates_forkFor {greedy : Bool} (h : states[entry]? = some (forkFor greedy more after))
    (hmore : Relates states more next R) (hafter : Relates states after next S) :
    Relates states entry next fun x y => R x y ∨ S x y := by
  constructor
  · intro n x hrun
    obtain ⟨m, rfl, hrun | hrun⟩ := (acceptsIn_forkFor h).mp hrun
    · obtain ⟨k, y, hle, hR, hnext⟩ := hmore.sound hrun
      exact ⟨k, y, Nat.le_succ_of_le hle, .inl hR, hnext⟩
    · obtain ⟨k, y, hle, hS, hnext⟩ := hafter.sound hrun
      exact ⟨k, y, Nat.le_succ_of_le hle, .inr hS, hnext⟩
  · rintro x y (hR | hS) haccepts
    · obtain ⟨m, hrun⟩ := hmore.complete hR haccepts
      exact ⟨m + 1, (acceptsIn_forkFor h).mpr ⟨m, rfl, .inl hrun⟩⟩
    · obtain ⟨m, hrun⟩ := hafter.complete hS haccepts
      exact ⟨m + 1, (acceptsIn_forkFor h).mpr ⟨m, rfl, .inr hrun⟩⟩

/-- A fork that what is repeated leads back to is passed any number of times. -/
theorem relates_loop {again start : Nat} {greedy : Bool}
    (h : states[again]? = some (forkFor greedy start next)) (hbody : Relates states start again R) :
    Relates states again next fun x y => ∃ count, Copies R count x y := by
  constructor
  · -- What is left of a run when it comes back to the fork is shorter.
    intro n
    induction n using Nat.strongRecOn with
    | ind n ih =>
      intro x hrun
      obtain ⟨m, rfl, hrun | hrun⟩ := (acceptsIn_forkFor h).mp hrun
      · obtain ⟨k, y, hle, hR, hagain⟩ := hbody.sound hrun
        obtain ⟨l, z, hle', ⟨count, hcopies⟩, hnext⟩ := ih k (Nat.lt_succ_of_le hle) hagain
        exact ⟨l, z, by omega, ⟨count + 1, y, hR, hcopies⟩, hnext⟩
      · exact ⟨m, x, Nat.le_succ m, ⟨0, rfl⟩, hrun⟩
  · rintro x y ⟨count, hcopies⟩ haccepts
    induction count generalizing x with
    | zero =>
      cases hcopies
      obtain ⟨m, hrun⟩ := haccepts
      exact ⟨m + 1, (acceptsIn_forkFor h).mpr ⟨m, rfl, .inr hrun⟩⟩
    | succ count ih =>
      obtain ⟨z, hR, hcopies⟩ := hcopies
      obtain ⟨m, hrun⟩ := hbody.complete hR (ih hcopies)
      exact ⟨m + 1, (acceptsIn_forkFor h).mpr ⟨m, rfl, .inl hrun⟩⟩

end Relating

/-! ### What is built -/

section Building

variable {states full : Array State} {R : Spot → Spot → Prop} {m : Nat}

theorem getElem?_emit {s : State} (h : Extends (emit states s).1 full) :
    full[(emit states s).2]? = some s := by
  rw [h _ (by rw [emit, Array.size_push]; exact Nat.lt_succ_self _)]
  exact Array.getElem?_push_size

/-- Copies that are built one in front of the other. -/
theorem relates_repeat {f : Built → Built} (hgrown : ∀ b, Grown b.1 m (f b))
    (hf : ∀ b, Extends (f b).1 full → Relates full (f b).2 b.2 R) (b : Built) :
    ∀ n, Extends (Nat.repeat f n b).1 full →
      Relates full (Nat.repeat f n b).2 b.2 (Copies R n)
  | 0, _ => relates_refl full b.2
  | n + 1, hfull =>
    (hf _ hfull).comp (relates_repeat hgrown hf b n ((hgrown _).onto hfull))

/-- Copies of which each is in front of a fork that leads on, too. -/
theorem relates_optional {f : Built → Built} {next : Nat} (hgrown : ∀ b, Grown b.1 m (f b))
    (hf : ∀ b, Extends (f b).1 full →
      ∃ greedy start, full[(f b).2]? = some (forkFor greedy start next) ∧
        Relates full start b.2 R) (states : Array State) :
    ∀ n, Extends (Nat.repeat f n (states, next)).1 full →
      Relates full (Nat.repeat f n (states, next)).2 next fun x y => ∃ k ≤ n, Copies R k x y
  | 0, _ => (relates_refl full next).congr fun x y => by
    simp only [Nat.le_zero, exists_eq_left, Copies]
  | n + 1, hfull => by
    obtain ⟨greedy, start, hfork, hstart⟩ := hf _ hfull
    have hrest := relates_optional hgrown hf states n ((hgrown _).onto hfull)
    refine (relates_forkFor hfork (hstart.comp hrest) (relates_refl full next)).congr
      fun x y => ?_
    constructor
    · rintro (⟨z, hR, k, hk, hcopies⟩ | rfl)
      · exact ⟨k + 1, Nat.succ_le_succ hk, z, hR, hcopies⟩
      · exact ⟨0, Nat.zero_le _, rfl⟩
    · rintro ⟨k, hk, hcopies⟩
      cases k with
      | zero => exact .inr hcopies
      | succ k =>
        obtain ⟨z, hR, hcopies⟩ := hcopies
        exact .inl ⟨z, hR, k, Nat.le_of_succ_le_succ hk, hcopies⟩

theorem comp_copies_iff {least greatest : Nat} {x y : Spot} :
    Comp (Copies R least) (fun x y => ∃ k ≤ greatest - least, Copies R k x y) x y ↔
      ∃ count, least ≤ count ∧ (∀ g ∈ some greatest, count ≤ max least g) ∧
        Copies R count x y := by
  simp only [Option.mem_some, forall_eq']
  constructor
  · rintro ⟨z, hleast, k, hk, hcopies⟩
    refine ⟨least + k, Nat.le_add_right _ _, by omega, ?_⟩
    rw [copies_add]
    exact ⟨z, hleast, hcopies⟩
  · rintro ⟨count, hleast, hgreatest, hcopies⟩
    obtain ⟨k, rfl⟩ := Nat.exists_eq_add_of_le hleast
    rw [copies_add] at hcopies
    obtain ⟨z, hfront, hcopies⟩ := hcopies
    exact ⟨z, hfront, k, by omega, hcopies⟩

/-- Any number of copies is at least one of them, or none. -/
theorem some_copies_or_eq_iff {x y : Spot} :
    (Comp R (fun x y => ∃ count, Copies R count x y) x y ∨ x = y) ↔
      ∃ count, Copies R count x y := by
  constructor
  · rintro (⟨z, hR, count, hcopies⟩ | rfl)
    · exact ⟨count + 1, z, hR, hcopies⟩
    · exact ⟨0, rfl⟩
  · rintro ⟨count, hcopies⟩
    cases count with
    | zero => exact .inr hcopies
    | succ count =>
      obtain ⟨z, hR, hcopies⟩ := hcopies
      exact .inl ⟨z, hR, count, hcopies⟩

theorem comp_copies_some_iff {others : Nat} {x y : Spot} :
    Comp (Copies R others) (Comp R fun x y => ∃ count, Copies R count x y) x y ↔
      ∃ count, others + 1 ≤ count ∧ Copies R count x y := by
  constructor
  · rintro ⟨z, hfront, w, hR, count, hcopies⟩
    refine ⟨others + (count + 1), by omega, ?_⟩
    rw [copies_add]
    exact ⟨z, hfront, w, hR, hcopies⟩
  · rintro ⟨count, hle, hcopies⟩
    obtain ⟨k, rfl⟩ := Nat.exists_eq_add_of_le hle
    rw [Nat.add_assoc, Nat.add_comm 1 k, copies_add] at hcopies
    obtain ⟨z, hfront, w, hR, hcopies⟩ := hcopies
    exact ⟨z, hfront, w, hR, k, hcopies⟩

mutual

/-- A pattern is built in front of the state that goes on behind what it takes. -/
theorem relates_build : ∀ (p : Pattern) (states : Array State) (next : Nat) {full : Array State},
    Extends (build states next p).1 full → Relates full (build states next p).2 next p.Takes
  | .empty, states, next, full, hfull => by
    rw [build, Pattern.Takes]
    exact relates_refl full next
  | .literal t, states, next, full, hfull => by
    rw [build] at hfull ⊢
    rw [Pattern.Takes]
    induction t with
    | nil => exact relates_refl full next
    | cons c t ih =>
      exact (relates_read (getElem?_emit hfull)).comp (ih ((grown_emit _ _).onto hfull))
  | .set s, states, next, full, hfull => by
    rw [build] at hfull ⊢
    rw [Pattern.Takes]
    exact relates_read (getElem?_emit hfull)
  | .place p, states, next, full, hfull => by
    rw [build] at hfull ⊢
    rw [Pattern.Takes]
    exact relates_test (getElem?_emit hfull)
  | .group _ body, states, next, full, hfull => by
    rw [build] at hfull ⊢
    rw [Pattern.Takes]
    exact relates_build body states next hfull
  | .sequence items, states, next, full, hfull => by
    rw [build] at hfull ⊢
    rw [Pattern.Takes]
    exact relates_buildSequence items states next hfull
  | .choice branches, states, next, full, hfull => by
    rw [build] at hfull ⊢
    rw [Pattern.Takes]
    exact relates_buildChoice branches states next hfull
  | .repeated body least none greedy, states, next, full, hfull => by
    have hgrown := grown_build body states (states.size + body.width)
    -- The fork behind the body leads back to it, so it is built with the number it will have.
    have hloop : Extends (emit (build states (states.size + body.width) body).1 (forkFor greedy
        (build states (states.size + body.width) body).2 next)).1 full →
        Relates full (build states (states.size + body.width) body).2
          (states.size + body.width) body.Takes ∧
        Relates full (states.size + body.width) next
          fun x y => ∃ count, Copies body.Takes count x y := by
      intro hfull
      have hbody := relates_build body states (states.size + body.width)
        ((grown_emit _ _).onto hfull)
      have hfork := getElem?_emit hfull
      rw [emit, hgrown.size] at hfork
      exact ⟨hbody, relates_loop hfork hbody⟩
    rw [build] at hfull ⊢
    simp only [Pattern.Takes, Option.not_mem_none, false_implies, implies_true, true_and]
    cases least with
    | zero =>
      simp only [Nat.zero_le, true_and]
      cases hsome : body.takesSomething with
      | true =>
        simp only [hsome, if_true] at hfull ⊢
        exact (hloop hfull).2
      | false =>
        simp only [hsome, Bool.false_eq_true, if_false] at hfull ⊢
        obtain ⟨hbody, hagain⟩ := hloop ((grown_emit _ _).onto hfull)
        exact (relates_forkFor (getElem?_emit hfull) (hbody.comp hagain)
          (relates_refl full next)).congr fun x y => some_copies_or_eq_iff
    | succ others =>
      have hcopy : ∀ b : Built, Grown b.1 body.width (build b.1 b.2 body) :=
        fun b => grown_build body b.1 b.2
      obtain ⟨hbody, hagain⟩ := hloop
        ((grown_repeat hcopy ((emit _ _).1, (build states (states.size + body.width) body).2)
          others).onto hfull)
      exact ((relates_repeat hcopy (fun b => relates_build body b.1 b.2) _ others hfull).comp
        (hbody.comp hagain)).congr fun x y => comp_copies_some_iff
  | .repeated body least (some greatest) greedy, states, next, full, hfull => by
    have hcopy : ∀ b : Built, Grown b.1 body.width (build b.1 b.2 body) :=
      fun b => grown_build body b.1 b.2
    have honce : ∀ b : Built, Grown b.1 (body.width + 1) (emit (build b.1 b.2 body).1
        (forkFor greedy (build b.1 b.2 body).2 next)) :=
      fun b => (hcopy b).trans (grown_emit _ _)
    rw [build] at hfull ⊢
    simp only [Pattern.Takes]
    refine ((relates_repeat hcopy (fun b => relates_build body b.1 b.2) _ least hfull).comp
      (relates_optional honce (fun b hfull => ?_) states (greatest - least)
        ((grown_repeat hcopy _ least).onto hfull))).congr fun x y => comp_copies_iff
    exact ⟨greedy, _, getElem?_emit hfull,
      relates_build body b.1 b.2 ((grown_emit _ _).onto hfull)⟩

theorem relates_buildSequence : ∀ (ps : List Pattern) (states : Array State) (next : Nat)
    {full : Array State}, Extends (buildSequence states next ps).1 full →
    Relates full (buildSequence states next ps).2 next (takesAll ps)
  | [], states, next, full, hfull => by
    rw [buildSequence, takesAll]
    exact relates_refl full next
  | p :: rest, states, next, full, hfull => by
    rw [buildSequence] at hfull ⊢
    rw [takesAll]
    exact (relates_build p _ _ hfull).comp
      (relates_buildSequence rest states next ((grown_build p _ _).onto hfull))

theorem relates_buildChoice : ∀ (ps : List Pattern) (states : Array State) (next : Nat)
    {full : Array State}, Extends (buildChoice states next ps).1 full →
    Relates full (buildChoice states next ps).2 next (takesOne ps)
  | [], states, next, full, hfull => by
    rw [buildChoice] at hfull ⊢
    refine (relates_read (getElem?_emit hfull)).congr fun x y => ?_
    simp only [takesOne, iff_false]
    rintro ⟨hmem⟩
    rw [CharSet.contains_empty] at hmem
    cases hmem
  | [p], states, next, full, hfull => by
    rw [buildChoice] at hfull ⊢
    refine (relates_build p states next hfull).congr fun x y => ?_
    simp only [takesOne, or_false]
  | p :: q :: rest, states, next, full, hfull => by
    have hcons : buildChoice states next (p :: q :: rest) =
        emit (build (buildChoice states next (q :: rest)).1 next p).1
          (forkFor true (build (buildChoice states next (q :: rest)).1 next p).2
            (buildChoice states next (q :: rest)).2) := by
      rw [buildChoice]
      · rfl
      · exact fun h => by cases h
    rw [hcons] at hfull ⊢
    rw [takesOne]
    have hbuilt := (grown_emit _ _).onto hfull
    exact relates_forkFor (getElem?_emit hfull) (relates_build p _ next hbuilt)
      (relates_buildChoice (q :: rest) states next ((grown_build p _ _).onto hbuilt))

end

end Building

/-- **A search for a pattern finds something** if the pattern takes some stretch of the text. -/
theorem isSome_search_ofPattern (p : Pattern) (t : Text) :
    ((ofPattern p).search t 0).isSome = true ↔
      ∃ x y, (Spot.start t).Reaches x ∧ p.Takes x y := by
  have hextends : Extends (build #[.accept] 0 p).1 (build #[.accept] 0 p).1 := fun _ _ => rfl
  have hbuilt := relates_build p #[.accept] 0 hextends
  have haccept : (build #[.accept] 0 p).1[0]? = some .accept :=
    (grown_build p #[.accept] 0).extend 0 Nat.one_pos
  have haccepts : ∀ y, Accepts (build #[.accept] 0 p).1 0 y := fun y => ⟨0, .accept haccept⟩
  rw [isSome_search]
  show (∃ x, (Spot.start t).Reaches x ∧
    Accepts (build #[.accept] 0 p).1 (build #[.accept] 0 p).2 x) ↔ _
  simp only [hbuilt.accepts_iff, haccepts, and_true, exists_and_left]

end PhoneticSearch.Regex.Automaton
