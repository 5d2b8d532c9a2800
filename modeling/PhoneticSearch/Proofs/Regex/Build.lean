import PhoneticSearch.Proofs.Regex.Leftmost

/-!
# What built automata prefer

A pattern is built behind the state that goes on where it ends.  So patterns that are joined are
built one behind the other (`build_join`), and the states that there are already prefer what they
preferred before (`preferred_of_extends`).

`Leads` says what the state with a number prefers, whatever stands in front.  From what the state
behind a set of characters prefers there follows what the state in front of it does, also where the
set is repeated greedily (`Leads.once`, `Leads.optional`, `Leads.many`, `Leads.some`).  From what the
entry of an automaton prefers there follows which match is found first (`Leads.search_cases`).
-/

namespace PhoneticSearch.Regex.Automaton

/-! ### Patterns one behind the other -/

section Joined

variable (states : Array State) (next : Nat)

theorem build_items (p : Pattern) : buildSequence states next p.items = build states next p := by
  cases p <;> simp only [Pattern.items, buildSequence, build]

theorem buildSequence_append (ps qs : List Pattern) : buildSequence states next (ps ++ qs) =
    buildSequence (buildSequence states next qs).1 (buildSequence states next qs).2 ps := by
  induction ps with
  | nil => rfl
  | cons p ps ih => rw [List.cons_append, buildSequence, ih, buildSequence]

theorem buildSequence_flatMap_items (ps : List Pattern) :
    buildSequence states next (ps.flatMap Pattern.items) = buildSequence states next ps := by
  induction ps with
  | nil => rfl
  | cons p ps ih =>
    rw [List.flatMap_cons, buildSequence_append, ih, build_items, buildSequence]

/-- Neighbouring texts are built like the one that they make together. -/
theorem buildSequence_followedBy (p : Pattern) (ps : List Pattern) :
    buildSequence states next (p.followedBy ps) = buildSequence states next (p :: ps) := by
  unfold Pattern.followedBy
  split
  · simp only [buildSequence, build, List.foldr_append]
  · rfl

theorem buildSequence_foldr_followedBy (ps : List Pattern) :
    buildSequence states next (ps.foldr Pattern.followedBy []) = buildSequence states next ps := by
  induction ps with
  | nil => rfl
  | cons p ps ih =>
    rw [List.foldr_cons, buildSequence_followedBy, buildSequence, ih, buildSequence]

/-- Patterns that are joined are built one behind the other. -/
theorem build_join (ps : List Pattern) :
    build states next (.join ps) = buildSequence states next ps := by
  rw [← buildSequence_flatMap_items, ← buildSequence_foldr_followedBy, Pattern.join]
  split <;> simp only [buildSequence, build, *]

end Joined

/-! ### States that stay among themselves -/

/-- Whether a state with a number leads to one of `n` states only, and to smaller numbers unless it
reads a character. -/
def State.Fits (n q : Nat) : State → Prop
  | .accept => True
  | .read _ next => next < n
  | .test _ next => next < q
  | .fork first second => first < q ∧ second < q

/-- Whether all states lead to one of `n` states only. -/
def AllFit (n : Nat) (states : Array State) : Prop :=
  ∀ q (s : State), states[q]? = some s → s.Fits n q

/-- Whether some states are the first ones of others. -/
def Extends (states states' : Array State) : Prop :=
  ∀ q < states.size, states'[q]? = states[q]?

section Extending

variable {states states' : Array State} {n m q : Nat} {s : State}

theorem State.Fits.mono (h : s.Fits n q) (hle : n ≤ m) : s.Fits m q := by
  cases s with
  | read s next => exact Nat.lt_of_lt_of_le h hle
  | accept | test _ _ | fork _ _ => exact h

theorem AllFit.push (h : AllFit n states) (hle : n ≤ m) (hs : s.Fits m states.size) :
    AllFit m (states.push s) := by
  intro q s' hs'
  rw [Array.getElem?_push] at hs'
  split at hs'
  · rename_i hq
    obtain rfl := Option.some.inj hs'
    exact hq ▸ hs
  · exact (h q s' hs').mono hle

theorem AllFit.descending (h : AllFit n states) : Descending states := by
  intro q s hs
  have hfits := h q s hs
  cases s with
  | accept | read _ _ => trivial
  | test _ _ | fork _ _ => exact hfits

theorem extends_push (states : Array State) (s : State) : Extends states (states.push s) := by
  intro q hq
  rw [Array.getElem?_push, if_neg (Nat.ne_of_lt hq)]

theorem Extends.trans {states'' : Array State} (h : Extends states states')
    (h' : Extends states' states'') (hsize : states.size ≤ states'.size) :
    Extends states states'' := by
  intro q hq
  rw [h' q (Nat.lt_of_lt_of_le hq hsize), h q hq]

/-- States prefer the same match when others are put behind them. -/
theorem preferred_of_extends (hfit : AllFit states.size states) (h : Extends states states')
    (before : Option Char) (rest : Text) (hq : q < states.size) :
    preferred states' q before rest = preferred states q before rest := by
  fun_induction preferred states q before rest with
  | case1 q before rest hnone =>
    rw [Array.getElem?_eq_getElem hq] at hnone
    cases hnone
  | case2 q before rest hstate => exact preferred_accept ((h q hq).trans hstate)
  | case3 q before s next hstate => exact preferred_read_nil ((h q hq).trans hstate)
  | case4 q before s next hstate c rest hmem ih =>
    rw [preferred_read_cons ((h q hq).trans hstate), if_pos hmem, ih (hfit q _ hstate)]
  | case5 q before s next hstate c rest hmem =>
    rw [preferred_read_cons ((h q hq).trans hstate), if_neg hmem]
  | case6 q before rest p next hstate hlt hholds ih =>
    rw [preferred_test ((h q hq).trans hstate) hlt, if_pos hholds, ih (Nat.lt_trans hlt hq)]
  | case7 q before rest p next hstate hlt hholds =>
    rw [preferred_test ((h q hq).trans hstate) hlt, if_neg hholds]
  | case8 q before rest p next hstate hlt => exact absurd (hfit q _ hstate) hlt
  | case9 q before rest first second hstate hlt ih ih' =>
    rw [preferred_fork ((h q hq).trans hstate) hlt, ih (Nat.lt_trans hlt.1 hq),
      ih' (Nat.lt_trans hlt.2 hq)]
  | case10 q before rest first second hstate hlt => exact absurd (hfit q _ hstate) hlt

end Extending

/-! ### What states lead to -/

/-- The match that reads one character of a set and goes on as another does. -/
def readThen (s : CharSet) (m : Text → Option Nat) : Text → Option Nat
  | [] => none
  | c :: rest => if s.contains c then (m rest).map (· + 1) else none

/-- Whether the state with a number prefers the match that `m` gives, whatever stands in front, and
the states stay among themselves. -/
structure Leads (states : Array State) (q : Nat) (m : Text → Option Nat) : Prop where
  allFit : AllFit states.size states
  inside : q < states.size
  preferred_eq : ∀ before rest, preferred states q before rest = m rest

section Leading

variable {states : Array State} {next : Nat} {m : Text → Option Nat} {s : CharSet}

/-- A match that takes nothing. -/
theorem leads_accept : Leads #[.accept] 0 fun _ => some 0 := by
  refine ⟨fun q s hs => ?_, Nat.one_pos, fun _ _ => preferred_accept rfl⟩
  obtain ⟨hq, rfl⟩ := Array.getElem?_eq_some_iff.mp hs
  obtain rfl := Nat.lt_one_iff.mp hq
  trivial

/-- A state that is put behind the others leaves what they prefer as it is. -/
theorem Leads.push (h : Leads states next m) {new : State}
    (hnew : new.Fits (states.size + 1) states.size) : Leads (states.push new) next m := by
  refine ⟨?_, ?_, fun before rest => ?_⟩
  · rw [Array.size_push]
    exact h.allFit.push (Nat.le_succ _) hnew
  · rw [Array.size_push]
    exact Nat.lt_succ_of_lt h.inside
  · rw [preferred_of_extends h.allFit (extends_push states new) before rest h.inside,
      h.preferred_eq]

/-- The new state prefers what follows from the states that it leads to. -/
theorem Leads.emit (h : Leads states next m) {new : State} {m' : Text → Option Nat}
    (hnew : new.Fits (states.size + 1) states.size)
    (hm' : ∀ before rest, preferred (states.push new) states.size before rest = m' rest) :
    Leads (emit states new).1 (emit states new).2 m' :=
  ⟨(h.push hnew).allFit, by rw [Automaton.emit, Array.size_push]; exact Nat.lt_succ_self _, hm'⟩

/-- A match that goes on at the end of a text only. -/
theorem Leads.endText (h : Leads states next m) :
    Leads (Automaton.emit states (.test .endText next)).1
      (Automaton.emit states (.test .endText next)).2
      fun rest => if rest.isEmpty then m rest else none := by
  have hfits : (State.test .endText next).Fits (states.size + 1) states.size := h.inside
  refine h.emit hfits fun before rest => ?_
  rw [preferred_test Array.getElem?_push_size h.inside, (h.push hfits).preferred_eq]
  cases rest <;> rfl

/-- One character of a set. -/
theorem Leads.once (h : Leads states next m) :
    Leads (Automaton.emit states (.read s next)).1 (Automaton.emit states (.read s next)).2
      (readThen s m) := by
  have hfits : (State.read s next).Fits (states.size + 1) states.size := Nat.lt_succ_of_lt h.inside
  refine h.emit hfits fun before rest => ?_
  cases rest with
  | nil => exact preferred_read_nil Array.getElem?_push_size
  | cons c rest =>
    rw [preferred_read_cons Array.getElem?_push_size, (h.push hfits).preferred_eq, readThen]

/-- One way rather than another. -/
theorem Leads.fork {first : Nat} {m' : Text → Option Nat} (hfirst : Leads states first m')
    (hnext : Leads states next m) :
    Leads (Automaton.emit states (.fork first next)).1 (Automaton.emit states (.fork first next)).2
      fun rest => (m' rest).or (m rest) := by
  have hfits : (State.fork first next).Fits (states.size + 1) states.size :=
    ⟨hfirst.inside, hnext.inside⟩
  refine hnext.emit hfits fun before rest => ?_
  rw [preferred_fork Array.getElem?_push_size hfits, (hfirst.push hfits).preferred_eq,
    (hnext.push hfits).preferred_eq]

/-- A character of a set that leads to a fork, which leads back to it rather than on. -/
theorem leads_loop (h : Leads states next m) {m' : Text → Option Nat}
    (hm' : ∀ rest, m' rest = (readThen s m' rest).or (m rest)) :
    Leads ((states.push (.read s (states.size + 1))).push (.fork states.size next))
        (states.size + 1) m' ∧
      Leads ((states.push (.read s (states.size + 1))).push (.fork states.size next)) states.size
        (readThen s m') := by
  generalize hlooped : (states.push (.read s (states.size + 1))).push (.fork states.size next) =
    looped
  have hsize : looped.size = states.size + 2 := by
    rw [← hlooped, Array.size_push, Array.size_push]
  have hfork : looped[states.size + 1]? = some (.fork states.size next) := by
    rw [← hlooped, Array.getElem?_push, if_pos (Array.size_push _).symm]
  have hread : looped[states.size]? = some (.read s (states.size + 1)) := by
    rw [← hlooped, Array.getElem?_push, if_neg (by rw [Array.size_push]; omega),
      Array.getElem?_push_size]
  have hextends : Extends states looped := hlooped ▸
    (extends_push _ _).trans (extends_push _ _) (by rw [Array.size_push]; omega)
  have hlt := h.inside
  have hfit : AllFit looped.size looped := by
    rw [hsize, ← hlooped]
    have hpushed : AllFit (states.size + 2) (states.push (.read s (states.size + 1))) :=
      h.allFit.push (Nat.le_add_right _ 2) (Nat.lt_succ_self _)
    refine hpushed.push (Nat.le_refl _) ?_
    rw [Array.size_push]
    exact ⟨Nat.lt_succ_self _, Nat.lt_succ_of_lt hlt⟩
  -- One character less is left whenever the fork is met again.
  have hagain : ∀ rest before, preferred looped (states.size + 1) before rest = m' rest := by
    intro rest
    induction rest with
    | nil =>
      intro before
      rw [preferred_fork hfork ⟨Nat.lt_succ_self _, Nat.lt_succ_of_lt hlt⟩,
        preferred_read_nil hread, preferred_of_extends h.allFit hextends before _ hlt,
        h.preferred_eq, hm', readThen]
    | cons c rest ih =>
      intro before
      rw [preferred_fork hfork ⟨Nat.lt_succ_self _, Nat.lt_succ_of_lt hlt⟩,
        preferred_read_cons hread, ih, preferred_of_extends h.allFit hextends before _ hlt,
        h.preferred_eq, hm' (c :: rest), readThen]
  refine ⟨⟨hfit, by omega, fun before rest => hagain rest before⟩, hfit, by omega, ?_⟩
  intro before rest
  cases rest with
  | nil => exact preferred_read_nil hread
  | cons c rest => rw [preferred_read_cons hread, hagain, readThen]

/-! ### Sets with quantifiers -/

/-- Whether a pattern is built as one state that reads a character of a set. -/
structure Single (p : Pattern) (s : CharSet) : Prop where
  build_eq : ∀ states next, build states next p = Automaton.emit states (.read s next)
  width : p.width = 1
  takesSomething : p.takesSomething = true

theorem single_literal (c : Char) : Single (.literal [c]) (.single c) :=
  ⟨fun _ _ => by rw [build]; rfl, by rw [Pattern.width]; rfl, by
    rw [Pattern.takesSomething, Pattern.leastLength]; rfl⟩

theorem single_set {s : CharSet} (h : s.isEmpty = false) : Single (.set s) s :=
  ⟨fun _ _ => by rw [build], by rw [Pattern.width], by
    rw [Pattern.takesSomething, Pattern.leastLength, if_neg (by simp [h])]; rfl⟩

/-- The pattern of a set with a member reads one character of it, also where it is a text. -/
theorem single_ofSet {s : CharSet} {c : Char} (hc : s.contains c = true) : Single (.ofSet s) s := by
  obtain ⟨ranges⟩ := s
  rw [Pattern.ofSet]
  split
  · rename_i d honly
    rw [CharSet.only?] at honly
    split at honly
    · rename_i first last heq
      obtain rfl : ranges = [(first, last)] := heq
      split at honly
      · rename_i hsame
        obtain rfl := Option.some.inj honly
        subst hsame
        have hfirst : c.toNat = first := by
          simp only [CharSet.contains, CharSet.has, CharSet.reaches] at hc
          split at hc
          · exact Nat.le_antisymm ‹_› (by simpa using hc)
          · cases hc
        rw [← hfirst, Char.ofNat_toNat]
        exact single_literal c
      · cases honly
    · cases honly
  · refine single_set (Bool.eq_false_iff.mpr fun hempty => ?_)
    obtain rfl : ranges = [] := List.isEmpty_iff.mp hempty
    cases hc

variable {p : Pattern}

theorem Leads.build_single (h : Leads states next m) (hp : Single p s) :
    Leads (build states next p).1 (build states next p).2 (readThen s m) := by
  rw [hp.build_eq]
  exact h.once

theorem Leads.build_optional (h : Leads states next m) (hp : Single p s) :
    Leads (build states next (.repeated p 0 (some 1) true)).1
      (build states next (.repeated p 0 (some 1) true)).2
      fun rest => (readThen s m rest).or (m rest) := by
  have hfits : (State.read s next).Fits (states.size + 1) states.size := Nat.lt_succ_of_lt h.inside
  have hfork := h.once.fork (h.push hfits)
  rw [build]
  simp only [Nat.sub_zero, Nat.repeat, hp.build_eq]
  exact hfork

theorem Leads.build_many (h : Leads states next m) (hp : Single p s) {m' : Text → Option Nat}
    (hm' : ∀ rest, m' rest = (readThen s m' rest).or (m rest)) :
    Leads (build states next (.repeated p 0 none true)).1
      (build states next (.repeated p 0 none true)).2 m' := by
  have hloop := (leads_loop h hm').1
  rw [build]
  simp only [hp.build_eq, hp.width, hp.takesSomething]
  exact hloop

theorem Leads.build_some (h : Leads states next m) (hp : Single p s) {m' : Text → Option Nat}
    (hm' : ∀ rest, m' rest = (readThen s m' rest).or (m rest)) :
    Leads (build states next (.repeated p 1 none true)).1
      (build states next (.repeated p 1 none true)).2 (readThen s m') := by
  have hloop := (leads_loop h hm').2
  rw [build]
  simp only [hp.build_eq, hp.width]
  exact hloop

end Leading

/-! ### The first match -/

section FirstMatch

variable {a : Automaton} {m : Text → Option Nat}

/-- The first match from a position on: there is none, or there is a match for the first time where
it starts, which takes as much as it does. -/
theorem Leads.leftmost_cases (ha : Leads a.states a.entry m) (w : Text) : ∀ (left i : Nat) (before : Option Char),
    i + left = w.length →
    (a.leftmost before i (w.drop i) = none ∧ ∀ j, i ≤ j → j ≤ w.length → m (w.drop j) = none) ∨
      ∃ j n, a.leftmost before i (w.drop i) = some ⟨j, j + n⟩ ∧ i ≤ j ∧ j ≤ w.length ∧
        m (w.drop j) = some n ∧ ∀ k, i ≤ k → k < j → m (w.drop k) = none := by
  have houtcome : ∀ (before : Option Char) (rest : Text) (i : Nat),
      a.outcome before rest i ⟨i, a.entry⟩ = (m rest).map fun n => ⟨i, i + n⟩ := by
    intro before rest i
    rw [outcome, ha.preferred_eq]
  intro left
  induction left with
  | zero =>
    intro i before hi
    have hdrop : w.drop i = [] := List.drop_eq_nil_of_le (by omega)
    rw [hdrop, leftmost, houtcome, ← hdrop]
    cases hm : m (w.drop i) with
    | none =>
      refine .inl ⟨rfl, fun j hij hj => ?_⟩
      obtain rfl : j = i := by omega
      exact hm
    | some n => exact .inr ⟨i, n, rfl, Nat.le_refl i, by omega, hm, fun k _ _ => by omega⟩
  | succ left ih =>
    intro i before hi
    have hdrop : w.drop i = w[i] :: w.drop (i + 1) := List.drop_eq_getElem_cons (by omega)
    rw [hdrop, leftmost, houtcome, ← hdrop]
    cases hm : m (w.drop i) with
    | some n => exact .inr ⟨i, n, rfl, Nat.le_refl i, by omega, hm, fun k _ _ => by omega⟩
    | none =>
      have hbefore : ∀ k, i ≤ k → (i + 1 ≤ k → m (w.drop k) = none) → m (w.drop k) = none := by
        intro k hik hlater
        rcases Nat.eq_or_lt_of_le hik with rfl | hlt
        · exact hm
        · exact hlater hlt
      rcases ih (i + 1) (some w[i]) (by omega) with ⟨hnone, hall⟩ | ⟨j, n, hfound, hij, hj, hn, hall⟩
      · exact .inl ⟨hnone, fun k hik hk => hbefore k hik fun hlt => hall k hlt hk⟩
      · exact .inr ⟨j, n, hfound, by omega, hj, hn,
          fun k hik hk => hbefore k hik fun hlt => hall k hlt hk⟩

/-- A search finds the first match from a position on, if there is one. -/
theorem Leads.search_cases (ha : Leads a.states a.entry m) {w : Text} {i : Nat}
    (hi : i ≤ w.length) :
    (a.search w i = none ∧ ∀ j, i ≤ j → j ≤ w.length → m (w.drop j) = none) ∨
      ∃ j n, a.search w i = some ⟨j, j + n⟩ ∧ i ≤ j ∧ j ≤ w.length ∧ m (w.drop j) = some n ∧
        ∀ k, i ≤ k → k < j → m (w.drop k) = none := by
  rw [search_eq_leftmost a ha.allFit.descending]
  exact ha.leftmost_cases w (w.length - i) i (w.take i).getLast? (by omega)

end FirstMatch

end PhoneticSearch.Regex.Automaton
