import PhoneticSearch.Proofs.Regex.Leftmost
import PhoneticSearch.Proofs.Regex.Takes

/-!
# Whether a search finds anything

`Accepts` says that an automaton may go on from a state, at a place in a text, until it accepts.
A search follows many threads at once and enters no state twice at a position, but it does find a
match if some run from some place accepts (`isSome_search`).

This holds of all automata, also of those whose states lead back to themselves without reading a
character.  The invariant is `Exploring`: what a state that has been seen leads to has been seen as
well or is about to be, so that in the end the states that have been seen are closed, and a run
that accepts leaves them through a thread that reads a character.
-/

namespace PhoneticSearch.Regex.Automaton

/-! ### Runs that accept -/

/-- Whether a run from a state, at a place in a text, accepts after a number of steps at most. -/
inductive AcceptsIn (states : Array State) : Nat → Nat → Spot → Prop where
  | accept {n q : Nat} {x : Spot} (h : states[q]? = some .accept) : AcceptsIn states n q x
  | read {n q next : Nat} {s : CharSet} {x y : Spot} (h : states[q]? = some (.read s next))
      (hstep : x.Steps s y) (hnext : AcceptsIn states n next y) : AcceptsIn states (n + 1) q x
  | test {n q next : Nat} {p : Place} {x : Spot} (h : states[q]? = some (.test p next))
      (hpass : p.holds x.before x.rest.head? = true) (hnext : AcceptsIn states n next x) :
      AcceptsIn states (n + 1) q x
  | first {n q first second : Nat} {x : Spot} (h : states[q]? = some (.fork first second))
      (hnext : AcceptsIn states n first x) : AcceptsIn states (n + 1) q x
  | second {n q first second : Nat} {x : Spot} (h : states[q]? = some (.fork first second))
      (hnext : AcceptsIn states n second x) : AcceptsIn states (n + 1) q x

/-- Whether some run from a state, at a place in a text, accepts. -/
def Accepts (states : Array State) (q : Nat) (x : Spot) : Prop := ∃ n, AcceptsIn states n q x

section Runs

variable {states : Array State} {n q next first second : Nat} {s : CharSet} {p : Place} {x : Spot}

theorem acceptsIn_read (h : states[q]? = some (.read s next)) : AcceptsIn states n q x ↔
    ∃ m y, n = m + 1 ∧ x.Steps s y ∧ AcceptsIn states m next y := by
  constructor
  · intro hrun
    cases hrun with
    | read h' hstep hnext =>
      cases h.symm.trans h'
      exact ⟨_, _, rfl, hstep, hnext⟩
    | accept h' | test h' _ _ | first h' _ | second h' _ => cases h.symm.trans h'
  · rintro ⟨m, y, rfl, hstep, hnext⟩
    exact .read h hstep hnext

theorem acceptsIn_test (h : states[q]? = some (.test p next)) : AcceptsIn states n q x ↔
    ∃ m, n = m + 1 ∧ p.holds x.before x.rest.head? = true ∧ AcceptsIn states m next x := by
  constructor
  · intro hrun
    cases hrun with
    | test h' hpass hnext =>
      cases h.symm.trans h'
      exact ⟨_, rfl, hpass, hnext⟩
    | accept h' | read h' _ _ | first h' _ | second h' _ => cases h.symm.trans h'
  · rintro ⟨m, rfl, hpass, hnext⟩
    exact .test h hpass hnext

theorem acceptsIn_fork (h : states[q]? = some (.fork first second)) : AcceptsIn states n q x ↔
    ∃ m, n = m + 1 ∧ (AcceptsIn states m first x ∨ AcceptsIn states m second x) := by
  constructor
  · intro hrun
    cases hrun with
    | first h' hnext =>
      cases h.symm.trans h'
      exact ⟨_, rfl, .inl hnext⟩
    | second h' hnext =>
      cases h.symm.trans h'
      exact ⟨_, rfl, .inr hnext⟩
    | accept h' | read h' _ _ | test h' _ _ => cases h.symm.trans h'
  · rintro ⟨m, rfl, hnext | hnext⟩
    · exact .first h hnext
    · exact .second h hnext

theorem AcceptsIn.lt_size (h : AcceptsIn states n q x) : q < states.size := by
  cases h with
  | accept h | read h _ _ | test h _ _ | first h _ | second h _ =>
    exact (Array.getElem?_eq_some_iff.mp h).1

theorem accepts_read (h : states[q]? = some (.read s next)) :
    Accepts states q x ↔ ∃ y, x.Steps s y ∧ Accepts states next y := by
  constructor
  · rintro ⟨n, hrun⟩
    obtain ⟨m, y, -, hstep, hnext⟩ := (acceptsIn_read h).mp hrun
    exact ⟨y, hstep, m, hnext⟩
  · rintro ⟨y, hstep, m, hnext⟩
    exact ⟨m + 1, .read h hstep hnext⟩

theorem accepts_test (h : states[q]? = some (.test p next)) : Accepts states q x ↔
    p.holds x.before x.rest.head? = true ∧ Accepts states next x := by
  constructor
  · rintro ⟨n, hrun⟩
    obtain ⟨m, -, hpass, hnext⟩ := (acceptsIn_test h).mp hrun
    exact ⟨hpass, m, hnext⟩
  · rintro ⟨hpass, m, hnext⟩
    exact ⟨m + 1, .test h hpass hnext⟩

theorem accepts_fork (h : states[q]? = some (.fork first second)) : Accepts states q x ↔
    Accepts states first x ∨ Accepts states second x := by
  constructor
  · rintro ⟨n, hrun⟩
    obtain ⟨m, -, hnext | hnext⟩ := (acceptsIn_fork h).mp hrun
    · exact .inl ⟨m, hnext⟩
    · exact .inr ⟨m, hnext⟩
  · rintro (⟨m, hnext⟩ | ⟨m, hnext⟩)
    · exact ⟨m + 1, .first h hnext⟩
    · exact ⟨m + 1, .second h hnext⟩

end Runs

/-! ### Threads at a position -/

section Threads

variable (a : Automaton) (x : Spot)

/-- Whether a run of one of some threads accepts. -/
def AnyAccepts (threads : List Thread) : Prop := ∃ t ∈ threads, Accepts a.states t.state x

/-- Whether threads that are followed end in one that accepts here, or in threads of which one
reads on until it accepts. -/
def Succeeds (settled : List Thread × Option Nat) : Prop :=
  a.AnyAccepts x settled.1 ∨ settled.2.isSome = true

/-- Whether a state has been seen or is about to be, if there is one with this number. -/
def Met (threads : List Thread) (seen : Array Bool) (q : Nat) : Prop :=
  q < a.states.size → seen.getD q false = true ∨ ∃ t ∈ threads, t.state = q

/-- Whether all that a state leads to is met or read. -/
def Explored (threads : List Thread) (seen : Array Bool) (reading : List Thread) (q : Nat) : Prop :=
  match a.states[q]? with
  | some .accept => False
  | some (.read _ _) => ∃ t ∈ reading, t.state = q
  | some (.test p next) => p.holds x.before x.rest.head? = true → a.Met threads seen next
  | some (.fork first second) => a.Met threads seen first ∧ a.Met threads seen second
  | none => True

/-- What holds while threads are followed: there are steps enough for them, each state has a mark,
and all that the states lead to that have been seen is met or read. -/
structure Exploring (left : Nat) (threads : List Thread) (seen : Array Bool)
    (reading : List Thread) : Prop where
  enough : threads.length + 2 * unseen seen ≤ left
  size : seen.size = a.states.size
  explored : ∀ q, seen.getD q false = true → a.Explored x threads seen reading q

variable {a x} {t : Thread} {threads more reading reading' : List Thread} {seen : Array Bool}
  {left q : Nat}

theorem not_anyAccepts_nil : ¬ a.AnyAccepts x [] := by
  rintro ⟨t, ht, -⟩
  cases ht

theorem anyAccepts_cons : a.AnyAccepts x (t :: threads) ↔
    Accepts a.states t.state x ∨ a.AnyAccepts x threads := by
  simp only [AnyAccepts, List.mem_cons, exists_eq_or_imp]

theorem anyAccepts_append : a.AnyAccepts x (threads ++ more) ↔
    a.AnyAccepts x threads ∨ a.AnyAccepts x more := by
  simp only [AnyAccepts, List.mem_append, or_and_right, exists_or]

/-- What is met and read stays so as more is seen and read. -/
theorem Explored.mono {seen' : Array Bool} {threads' : List Thread}
    (h : a.Explored x threads seen reading q)
    (hmet : ∀ q, a.Met threads seen q → a.Met threads' seen' q) (hread : reading ⊆ reading') :
    a.Explored x threads' seen' reading' q := by
  unfold Explored at h ⊢
  split at h
  · exact h
  · obtain ⟨t, ht, hq⟩ := h
    exact ⟨t, hread ht, hq⟩
  · exact fun hpass => hmet _ (h hpass)
  · exact ⟨hmet _ h.1, hmet _ h.2⟩
  · trivial

theorem getD_set_self (hq : q < seen.size) : (seen.setIfInBounds q true).getD q false = true := by
  rw [Array.getD_eq_getD_getElem?, Array.getElem?_setIfInBounds_self_of_lt hq]
  rfl

theorem getD_set_of_seen {q' : Nat} (h : seen.getD q' false = true) :
    (seen.setIfInBounds q true).getD q' false = true := by
  by_cases hq : q = q'
  · subst hq
    refine getD_set_self (Nat.lt_of_not_le fun hle => ?_)
    rw [Array.getD_eq_getD_getElem?, Array.getElem?_eq_none hle] at h
    cases h
  · rwa [Array.getD_eq_getD_getElem?, Array.getElem?_setIfInBounds_ne hq,
      ← Array.getD_eq_getD_getElem?]

/-- A thread whose state has been seen, or that there is not, is passed over. -/
theorem Exploring.skip (h : a.Exploring x (left + 1) (t :: threads) seen reading)
    (hseen : seen.getD t.state true = true) :
    a.Exploring x left threads seen reading ∧
      ∀ q, a.Met (t :: threads) seen q → a.Met threads seen q := by
  have hmet : ∀ q, a.Met (t :: threads) seen q → a.Met threads seen q := by
    intro q hq hlt
    rcases hq hlt with hq | ⟨t', ht', rfl⟩
    · exact .inl hq
    · rcases List.mem_cons.mp ht' with rfl | ht'
      · rw [← h.size] at hlt
        left
        rw [Array.getD_eq_getD_getElem?, Array.getElem?_eq_getElem hlt] at hseen ⊢
        exact hseen
      · exact .inr ⟨t', ht', rfl⟩
  have henough := h.enough
  rw [List.length_cons] at henough
  exact ⟨⟨by omega, h.size, fun q hq => (h.explored q hq).mono hmet (List.Subset.refl _)⟩, hmet⟩

/-- A thread gives way to the threads that its state leads to. -/
theorem Exploring.replace (h : a.Exploring x (left + 1) (t :: threads) seen reading)
    (hseen : seen.getD t.state true = false) (hlength : more.length ≤ 2)
    (hread : reading ⊆ reading')
    (hstate : a.Explored x (more ++ threads) (seen.setIfInBounds t.state true) reading' t.state) :
    a.Exploring x left (more ++ threads) (seen.setIfInBounds t.state true) reading' ∧
      ∀ q, a.Met (t :: threads) seen q →
        a.Met (more ++ threads) (seen.setIfInBounds t.state true) q := by
  have hmet : ∀ q, a.Met (t :: threads) seen q →
      a.Met (more ++ threads) (seen.setIfInBounds t.state true) q := by
    intro q hq hlt
    rcases hq hlt with hq | ⟨t', ht', rfl⟩
    · exact .inl (getD_set_of_seen hq)
    · rcases List.mem_cons.mp ht' with rfl | ht'
      · exact .inl (getD_set_self (h.size.symm ▸ hlt))
      · exact .inr ⟨t', List.mem_append_right _ ht', rfl⟩
  have hunseen := unseen_set hseen
  have henough := h.enough
  rw [List.length_cons] at henough
  refine ⟨⟨?_, by rw [Array.size_setIfInBounds, h.size], fun q hq => ?_⟩, hmet⟩
  · rw [List.length_append]
    omega
  · rcases seen_cases hq with rfl | hq
    · exact hstate
    · exact (h.explored q hq).mono hmet hread

/-- Where no thread is left to be followed, a run that accepts reads a character. -/
theorem Exploring.anyAccepts (h : a.Exploring x left [] seen reading) :
    ∀ (n q : Nat), a.Met [] seen q → AcceptsIn a.states n q x → a.AnyAccepts x reading := by
  intro n
  induction n with
  | zero =>
    intro q hmet hrun
    have hseen := (hmet hrun.lt_size).resolve_right (by simp)
    have hexplored := h.explored q hseen
    cases hrun with
    | accept hstate =>
      rw [Explored, hstate] at hexplored
      exact hexplored.elim
  | succ n ih =>
    intro q hmet hrun
    have hseen := (hmet hrun.lt_size).resolve_right (by simp)
    have hexplored := h.explored q hseen
    rw [Explored] at hexplored
    cases hrun with
    | accept hstate =>
      rw [hstate] at hexplored
      exact hexplored.elim
    | read hstate hstep hnext =>
      rw [hstate] at hexplored
      obtain ⟨t, ht, rfl⟩ := hexplored
      exact ⟨t, ht, n + 1, .read hstate hstep hnext⟩
    | test hstate hpass hnext =>
      rw [hstate] at hexplored
      exact ih _ (hexplored hpass) hnext
    | first hstate hnext =>
      rw [hstate] at hexplored
      exact ih _ hexplored.1 hnext
    | second hstate hnext =>
      rw [hstate] at hexplored
      exact ih _ hexplored.2 hnext

/-- Threads that are followed do not lose a run that accepts. -/
theorem succeeds_of_met : ∀ (left : Nat) (threads : List Thread) (seen : Array Bool)
    (reading : List Thread), a.Exploring x left threads seen reading →
    ∀ q, a.Met threads seen q → Accepts a.states q x →
      a.Succeeds x (a.settle x.before x.rest.head? left threads seen reading) := by
  have hdone : ∀ {left : Nat} {seen : Array Bool} {reading : List Thread} {start : Option Nat},
      a.Exploring x left [] seen reading → ∀ q, a.Met [] seen q → Accepts a.states q x →
      a.Succeeds x (reading.reverse, start) := by
    rintro left seen reading start h q hmet ⟨n, hrun⟩
    obtain ⟨t, ht, haccepts⟩ := h.anyAccepts n q hmet hrun
    exact .inl ⟨t, List.mem_reverse.mpr ht, haccepts⟩
  intro left
  induction left with
  | zero =>
    intro threads seen reading h
    have henough := h.enough
    obtain rfl : threads = [] := List.length_eq_zero_iff.mp (by omega)
    exact hdone h
  | succ left ih =>
    intro threads seen reading h q hmet haccepts
    cases threads with
    | nil => exact hdone h q hmet haccepts
    | cons t threads =>
      rw [settle]
      cases hseen : seen.getD t.state true with
      | true =>
        obtain ⟨hnext, hkeeps⟩ := h.skip hseen
        rw [if_pos rfl]
        exact ih _ _ _ hnext q (hkeeps q hmet) haccepts
      | false =>
        rw [if_neg Bool.false_ne_true]
        dsimp only
        -- What a state leads to takes the place of the thread.
        have hreplace : ∀ more reading' : List Thread, more.length ≤ 2 → reading ⊆ reading' →
            a.Explored x (more ++ threads) (seen.setIfInBounds t.state true) reading' t.state →
            a.Succeeds x (a.settle x.before x.rest.head? left (more ++ threads)
              (seen.setIfInBounds t.state true) reading') := by
          intro more reading' hlength hread hstate
          obtain ⟨hnext, hkeeps⟩ := h.replace hseen hlength hread hstate
          exact ih _ _ _ hnext q (hkeeps q hmet) haccepts
        have hnew : ∀ (more : List Thread) (m : Thread), m ∈ more →
            a.Met (more ++ threads) (seen.setIfInBounds t.state true) m.state :=
          fun more m hm _ => .inr ⟨m, List.mem_append_left _ hm, rfl⟩
        cases hstate : a.states[t.state]? with
        | none =>
          refine hreplace [] reading (Nat.zero_le 2) (List.Subset.refl _) ?_
          rw [Explored, hstate]
          trivial
        | some s =>
          cases s with
          | accept => exact .inr rfl
          | read s next =>
            refine hreplace [] (t :: reading) (Nat.zero_le 2) (List.subset_cons_self _ _) ?_
            rw [Explored, hstate]
            exact ⟨t, List.mem_cons_self, rfl⟩
          | test p next =>
            dsimp only
            by_cases hpass : p.holds x.before x.rest.head? = true
            · rw [if_pos hpass]
              refine hreplace [⟨t.start, next⟩] reading (Nat.le_succ 1) (List.Subset.refl _) ?_
              rw [Explored, hstate]
              exact fun _ => hnew _ ⟨t.start, next⟩ List.mem_cons_self
            · rw [if_neg hpass]
              refine hreplace [] reading (Nat.zero_le 2) (List.Subset.refl _) ?_
              rw [Explored, hstate]
              exact fun h => absurd h hpass
          | fork first second =>
            refine hreplace [⟨t.start, first⟩, ⟨t.start, second⟩] reading (Nat.le_refl 2)
              (List.Subset.refl _) ?_
            rw [Explored, hstate]
            exact ⟨hnew _ ⟨t.start, first⟩ List.mem_cons_self,
              hnew _ ⟨t.start, second⟩ (List.mem_cons_of_mem _ List.mem_cons_self)⟩

/-- Threads that are followed only succeed if a run of one of them accepts. -/
theorem anyAccepts_of_settle : ∀ (left : Nat) (threads : List Thread) (seen : Array Bool)
    (reading : List Thread),
    a.Succeeds x (a.settle x.before x.rest.head? left threads seen reading) →
    a.AnyAccepts x threads ∨ a.AnyAccepts x reading := by
  have hdone : ∀ {reading : List Thread}, a.Succeeds x (reading.reverse, none) →
      a.AnyAccepts x reading := by
    rintro reading (⟨t, ht, haccepts⟩ | hnone)
    · exact ⟨t, List.mem_reverse.mp ht, haccepts⟩
    · cases hnone
  intro left
  induction left with
  | zero => exact fun threads seen reading h => .inr (hdone h)
  | succ left ih =>
    intro threads seen reading h
    cases threads with
    | nil => exact .inr (hdone h)
    | cons t threads =>
      rw [settle] at h
      rw [anyAccepts_cons, or_assoc]
      split at h
      · exact .inr (ih _ _ _ h)
      · dsimp only at h
        cases hstate : a.states[t.state]? with
        | none =>
          rw [hstate] at h
          exact .inr (ih _ _ _ h)
        | some s =>
          rw [hstate] at h
          cases s with
          | accept => exact .inl ⟨0, .accept hstate⟩
          | read s next =>
            rcases ih _ _ _ h with h | h
            · exact .inr (.inl h)
            · exact (anyAccepts_cons.mp h).imp_right .inr
          | test p next =>
            dsimp only at h
            split at h
            · rename_i hpass
              rcases ih _ _ _ h with h | h
              · rw [anyAccepts_cons] at h
                exact h.imp (fun hnext => (accepts_test hstate).mpr ⟨hpass, hnext⟩) .inl
              · exact .inr (.inr h)
            · exact .inr (ih _ _ _ h)
          | fork first second =>
            rcases ih _ _ _ h with h | h
            · rw [anyAccepts_cons, anyAccepts_cons, ← or_assoc] at h
              exact h.imp (accepts_fork hstate).mpr .inl
            · exact .inr (.inr h)

/-- Threads that are left where they are read a character. -/
theorem reads_settle (before after : Option Char) (hreading : ∀ t ∈ reading, a.Reads t) :
    ∀ t ∈ (a.settle before after left threads seen reading).1, a.Reads t := by
  have hreverse : ∀ reading : List Thread, (∀ t ∈ reading, a.Reads t) →
      ∀ t ∈ reading.reverse, a.Reads t :=
    fun reading h t ht => h t (List.mem_reverse.mp ht)
  induction left generalizing threads seen reading with
  | zero => exact hreverse reading hreading
  | succ left ih =>
    cases threads with
    | nil => exact hreverse reading hreading
    | cons t threads =>
      rw [settle]
      split
      · exact ih hreading
      · dsimp only
        split
        · rename_i s next hstate
          exact ih (List.forall_mem_cons.mpr ⟨⟨s, next, hstate⟩, hreading⟩)
        · exact ih hreading
        · exact ih hreading
        · exact hreverse reading hreading
        · exact ih hreading

/-- A visit succeeds where a run of one of the threads accepts, or one that starts here. -/
theorem succeeds_settle (threads : List Thread) :
    a.Succeeds x (a.settle x.before x.rest.head? (threads.length + 2 * a.states.size + 1) threads
      (Array.replicate a.states.size false) []) ↔ a.AnyAccepts x threads := by
  constructor
  · intro h
    exact (anyAccepts_of_settle _ _ _ _ h).resolve_right not_anyAccepts_nil
  · rintro ⟨t, ht, haccepts⟩
    refine succeeds_of_met _ _ _ _ ⟨?_, Array.size_replicate, fun q hq => ?_⟩ t.state
      (fun _ => .inr ⟨t, ht, rfl⟩) haccepts
    · rw [unseen, Array.toList_replicate, List.countP_replicate]
      simp only [Bool.not_false, if_true]
      omega
    · rw [Array.getD_eq_getD_getElem?, Array.getElem?_replicate] at hq
      split at hq <;> cases hq

/-! ### Threads from one position to the next -/

variable {before : Option Char} {rest : Text} {position : Nat} {found : Option Span}

/-- A thread that reads a character accepts if it does so behind the character. -/
theorem anyAccepts_step (c : Char) (hreads : ∀ t ∈ threads, a.Reads t) :
    a.AnyAccepts ⟨some c, rest⟩ (threads.filterMap (a.step c)) ↔
      a.AnyAccepts ⟨before, c :: rest⟩ threads := by
  induction threads with
  | nil =>
    simp only [AnyAccepts, List.filterMap_nil, List.not_mem_nil, false_and, exists_false]
  | cons t threads ih =>
    obtain ⟨⟨s, next, hstate⟩, hreads⟩ := List.forall_mem_cons.mp hreads
    have hstep : a.step c t = if s.contains c then some ⟨t.start, next⟩ else none := by
      rw [step, hstate]
    rw [anyAccepts_cons, ← ih hreads, accepts_read hstate]
    simp only [Spot.steps_cons_iff]
    by_cases hmem : s.contains c = true
    · rw [if_pos hmem] at hstep
      rw [List.filterMap_cons_some hstep, anyAccepts_cons]
      simp only [hmem, true_and, exists_eq_left]
    · rw [if_neg hmem] at hstep
      rw [List.filterMap_cons_none hstep]
      simp only [hmem, false_and, exists_false, false_or, Bool.false_eq_true]

/-- Behind the last character no thread reads on. -/
theorem not_anyAccepts_end (hreads : ∀ t ∈ threads, a.Reads t) :
    ¬ a.AnyAccepts ⟨before, []⟩ threads := by
  rintro ⟨t, ht, haccepts⟩
  obtain ⟨s, next, hstate⟩ := hreads t ht
  obtain ⟨y, hstep, -⟩ := (accepts_read hstate).mp haccepts
  exact Spot.not_steps_nil hstep

/-- What a visit leaves when no match has been found before. -/
theorem visit_none (threads : List Thread) (position : Nat) :
    (∀ t ∈ (a.visit threads none x.before x.rest.head? position).1, a.Reads t) ∧
      ((a.AnyAccepts x (a.visit threads none x.before x.rest.head? position).1 ∨
          (a.visit threads none x.before x.rest.head? position).2.isSome = true) ↔
        a.AnyAccepts x threads ∨ Accepts a.states a.entry x) := by
  have hsucceeds := succeeds_settle (a := a) (x := x) (threads ++ [⟨position, a.entry⟩])
  rw [anyAccepts_append] at hsucceeds
  simp only [AnyAccepts, List.mem_singleton, exists_eq_left] at hsucceeds
  refine ⟨reads_settle _ _ (List.forall_mem_nil _), ?_⟩
  rw [AnyAccepts, AnyAccepts, ← hsucceeds, Succeeds]
  simp only [visit, Option.isNone_none, if_true, Option.orElse_eq_or, Option.or_none,
    Option.isSome_map]
  exact Iff.rfl

theorem isSome_visit (h : found.isSome = true) (after : Option Char) :
    (a.visit threads found before after position).2.isSome = true := by
  obtain ⟨s, rfl⟩ := Option.isSome_iff_exists.mp h
  simp only [visit, Option.orElse_eq_or, Option.isSome_or, Option.isSome_some, Bool.or_true]

/-- A match that has been found is not lost. -/
theorem isSome_advance_of_found (h : found.isSome = true) :
    (a.advance threads found before position rest).isSome = true := by
  induction rest generalizing threads found before position with
  | nil => exact isSome_visit h none
  | cons c rest ih =>
    have hvisit : (a.visit threads found before (some c) position).2.isSome = true :=
      isSome_visit h (some c)
    rw [advance]
    dsimp only
    split
    · exact hvisit
    · exact ih hvisit

/-- A search that has come to a position without a match finds one if a run of one of its threads
accepts, or one that starts here or farther on. -/
theorem isSome_advance : ∀ (rest : Text) (threads : List Thread) (before : Option Char)
    (position : Nat), (a.advance threads none before position rest).isSome = true ↔
      a.AnyAccepts ⟨before, rest⟩ threads ∨
        ∃ y, Spot.Reaches ⟨before, rest⟩ y ∧ Accepts a.states a.entry y := by
  intro rest
  induction rest with
  | nil =>
    intro threads before position
    obtain ⟨hreads, hvisit⟩ := visit_none (a := a) (x := ⟨before, []⟩) threads position
    simp only [Spot.reaches_nil_iff, exists_eq_left]
    rw [← hvisit, or_iff_right (not_anyAccepts_end hreads)]
    rfl
  | cons c rest ih =>
    intro threads before position
    obtain ⟨hreads, hvisit⟩ := visit_none (a := a) (x := ⟨before, c :: rest⟩) threads position
    dsimp only [List.head?_cons] at hreads hvisit
    simp only [Spot.reaches_cons_iff, or_and_right, exists_or, exists_eq_left]
    rw [← or_assoc, ← hvisit, advance]
    cases hfound : (a.visit threads none before (some c) position).2 with
    | some s =>
      dsimp only
      simp only [hfound, Option.isSome_some, Bool.and_true, or_true, true_or, iff_true]
      split
      · rfl
      · exact isSome_advance_of_found rfl
    | none =>
      simp only [hfound, Option.isSome_none, Bool.and_false, Bool.false_eq_true, if_false, or_false]
      rw [ih, anyAccepts_step c hreads]

variable (a) in
/-- **A search finds something** if some run from some place of the text accepts. -/
theorem isSome_search (t : Text) : (a.search t 0).isSome = true ↔
    ∃ y, (Spot.start t).Reaches y ∧ Accepts a.states a.entry y := by
  rw [search, isSome_advance]
  exact or_iff_right not_anyAccepts_nil

end Threads

end PhoneticSearch.Regex.Automaton
