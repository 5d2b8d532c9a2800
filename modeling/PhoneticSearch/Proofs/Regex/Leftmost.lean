import PhoneticSearch.Pattern.Regex.Automaton

/-!
# The match that a search prefers

`Automaton.preferred` follows an automaton from one state by itself: at a fork the first way is
taken if it leads to a match at all, and the second one if it does not.  A search follows many
threads at once and enters no state twice at a position.  It finds the same match
(`search_eq_leftmost`): that of the first position with a match, taken in the preferred way.

This holds of automata whose forks and tests lead to states with smaller numbers, so that no state
is met again before a character is read.  The invariant is `Kept`: if a state has been seen from
which a match can be reached, then a thread in front has one as well, be it one that reads a
character or one that is still to be followed and came from that state.
-/

namespace PhoneticSearch.Regex.Automaton

/-! ### One state by itself -/

/-- How many characters the preferred match takes that goes on in a state; where a fork or a test
does not lead to smaller numbers there is none. -/
def preferred (states : Array State) (q : Nat) (before : Option Char) (rest : Text) : Option Nat :=
  match states[q]? with
  | none => none
  | some .accept => some 0
  | some (.read s next) =>
    match rest with
    | [] => none
    | c :: rest => if s.contains c then (preferred states next (some c) rest).map (· + 1) else none
  | some (.test p next) =>
    if _h : next < q then
      if p.holds before rest.head? then preferred states next before rest else none
    else none
  | some (.fork first second) =>
    if _h : first < q ∧ second < q then
      (preferred states first before rest).or (preferred states second before rest)
    else none
termination_by (rest.length, q)

/-- Whether a state with a number leads to smaller numbers unless it reads a character. -/
def State.Descends (q : Nat) : State → Prop
  | .test _ next => next < q
  | .fork first second => first < q ∧ second < q
  | _ => True

/-- Whether all states lead to smaller numbers unless they read a character. -/
def Descending (states : Array State) : Prop :=
  ∀ q (s : State), states[q]? = some s → s.Descends q

section States

variable {states : Array State} {q : Nat} {before : Option Char} {rest : Text}

theorem preferred_of_none (h : states[q]? = none) : preferred states q before rest = none := by
  rw [preferred, h]

theorem preferred_accept (h : states[q]? = some .accept) :
    preferred states q before rest = some 0 := by
  rw [preferred, h]

variable {s : CharSet} {next first second : Nat}

theorem preferred_read_nil (h : states[q]? = some (.read s next)) :
    preferred states q before [] = none := by
  rw [preferred, h]

theorem preferred_read_cons (h : states[q]? = some (.read s next)) (c : Char) :
    preferred states q before (c :: rest) =
      if s.contains c then (preferred states next (some c) rest).map (· + 1) else none := by
  rw [preferred, h]

theorem preferred_test {p : Place} (h : states[q]? = some (.test p next)) (hlt : next < q) :
    preferred states q before rest =
      if p.holds before rest.head? then preferred states next before rest else none := by
  rw [preferred, h]
  exact dif_pos hlt

theorem preferred_fork (h : states[q]? = some (.fork first second))
    (hlt : first < q ∧ second < q) : preferred states q before rest =
      (preferred states first before rest).or (preferred states second before rest) := by
  rw [preferred, h]
  exact dif_pos hlt

end States

/-! ### Threads at a position -/

section Threads

variable (a : Automaton) (before : Option Char) (rest : Text) (position : Nat)

/-- The match that a thread leads to. -/
def outcome (t : Thread) : Option Span :=
  (preferred a.states t.state before rest).map fun count => ⟨t.start, position + count⟩

/-- The match of the first thread that leads to one. -/
def best (threads : List Thread) : Option Span := threads.findSome? (a.outcome before rest position)

/-- Whether a thread leads to a match. -/
def Wins (t : Thread) : Prop := (preferred a.states t.state before rest).isSome

/-- Whether one of the threads in front leads to a match, where those up to it are in states with
numbers smaller than `q`. -/
def Pending (q : Nat) : List Thread → Prop
  | [] => False
  | t :: threads => t.state < q ∧ (a.Wins before rest t ∨ Pending q threads)

/-- Whether a match that could be reached from a state that has been seen is not lost. -/
def Kept (seen : Array Bool) (threads reading : List Thread) : Prop :=
  ∀ q, seen.getD q false = true → (preferred a.states q before rest).isSome →
    (∃ t ∈ reading, a.Wins before rest t) ∨ a.Pending before rest q threads

/-- Whether a thread is in a state that reads a character. -/
def Reads (t : Thread) : Prop := ∃ s next, a.states[t.state]? = some (.read s next)

/-- The number of states that have not been seen. -/
def unseen (seen : Array Bool) : Nat := seen.toList.countP (!·)

variable {a before rest position}

theorem best_append (threads more : List Thread) :
    a.best before rest position (threads ++ more) =
      (a.best before rest position threads).or (a.best before rest position more) :=
  List.findSome?_append

theorem best_singleton (t : Thread) :
    a.best before rest position [t] = a.outcome before rest position t := by
  rw [best, List.findSome?_cons]
  cases a.outcome before rest position t <;> rfl

theorem best_cons (t : Thread) (threads : List Thread) : a.best before rest position (t :: threads) =
    (a.outcome before rest position t).or (a.best before rest position threads) := by
  rw [← List.singleton_append, best_append, best_singleton]

variable (position) in
theorem isSome_outcome (t : Thread) :
    (a.outcome before rest position t).isSome ↔ a.Wins before rest t := by
  rw [outcome, Option.isSome_map, Wins]

variable (position) in
theorem isSome_best {threads : List Thread} : (a.best before rest position threads).isSome ↔
    ∃ t ∈ threads, a.Wins before rest t := by
  simp only [best, List.findSome?_isSome_iff, isSome_outcome]

theorem unseen_set {seen : Array Bool} {q : Nat} (h : seen.getD q true = false) :
    unseen (seen.setIfInBounds q true) + 1 = unseen seen := by
  obtain ⟨hq, hfalse⟩ : ∃ hq : q < seen.size, seen[q] = false := by
    rw [Array.getD_eq_getD_getElem?] at h
    by_cases hq : q < seen.size
    · rw [Array.getElem?_eq_getElem hq] at h
      exact ⟨hq, h⟩
    · rw [Array.getElem?_eq_none (Nat.le_of_not_lt hq)] at h
      cases h
  have hlist : q < seen.toList.length := hq
  have hpos : 0 < seen.toList.countP (!·) :=
    List.countP_pos_iff.mpr ⟨_, List.getElem_mem hlist, by simp [hfalse]⟩
  rw [unseen, unseen, Array.toList_setIfInBounds, List.countP_set hlist]
  simp only [Array.getElem_toList, hfalse, Bool.not_false, Bool.not_true, if_true,
    Bool.false_eq_true, if_false]
  omega

/-! ### Following threads -/

variable {t : Thread} {threads reading : List Thread} {seen : Array Bool}

theorem Pending.append {q : Nat} {more : List Thread} (hmore : ∀ m ∈ more, m.state < q)
    (h : (∃ m ∈ more, a.Wins before rest m) ∨ a.Pending before rest q threads) :
    a.Pending before rest q (more ++ threads) := by
  induction more with
  | nil => exact h.resolve_left fun ⟨m, hm, _⟩ => List.not_mem_nil hm
  | cons m more ih =>
    obtain ⟨hm, hmore⟩ := List.forall_mem_cons.mp hmore
    refine ⟨hm, ?_⟩
    rcases h with ⟨m', hm', hwins⟩ | h
    · rcases List.mem_cons.mp hm' with rfl | hm'
      · exact .inl hwins
      · exact .inr (ih hmore (.inl ⟨m', hm', hwins⟩))
    · exact .inr (ih hmore (.inr h))

theorem seen_cases {q q' : Nat} (h : (seen.setIfInBounds q true).getD q' false = true) :
    q' = q ∨ seen.getD q' false = true := by
  by_cases hq : q' = q
  · exact .inl hq
  · rw [Array.getD_eq_getD_getElem?, Array.getElem?_setIfInBounds_ne (Ne.symm hq)] at h
    exact .inr (by rwa [Array.getD_eq_getD_getElem?])

/-- A thread in a state that has been seen does not matter. -/
theorem Kept.skip (h : a.Kept before rest seen (t :: threads) reading)
    (ht : seen.getD t.state false = true ∨ ¬ a.Wins before rest t) :
    a.Kept before rest seen threads reading ∧
      (a.Wins before rest t → ∃ t' ∈ reading, a.Wins before rest t') := by
  have hwins : a.Wins before rest t → ∃ t' ∈ reading, a.Wins before rest t' := by
    intro hwins
    rcases h t.state (ht.resolve_right fun hlost => hlost hwins) hwins with hread | ⟨hlt, -⟩
    · exact hread
    · exact absurd hlt (Nat.lt_irrefl _)
  refine ⟨fun q hq hmatch => ?_, hwins⟩
  rcases h q hq hmatch with hread | ⟨-, hwon | hpending⟩
  · exact .inl hread
  · exact .inl (hwins hwon)
  · exact .inr hpending

/-- A thread that reads a character is left where it is. -/
theorem Kept.read (h : a.Kept before rest seen (t :: threads) reading) :
    a.Kept before rest (seen.setIfInBounds t.state true) threads (t :: reading) := by
  intro q hq hmatch
  rcases seen_cases hq with rfl | hq
  · exact .inl ⟨t, List.mem_cons_self, hmatch⟩
  · rcases h q hq hmatch with ⟨t', ht', hwins⟩ | ⟨-, hwon | hpending⟩
    · exact .inl ⟨t', List.mem_cons_of_mem _ ht', hwins⟩
    · exact .inl ⟨t, List.mem_cons_self, hwon⟩
    · exact .inr hpending

/-- A thread gives way to threads in states with smaller numbers that lead to a match if it did. -/
theorem Kept.replace (h : a.Kept before rest seen (t :: threads) reading) {more : List Thread}
    (hmore : ∀ m ∈ more, m.state < t.state)
    (hwins : a.Wins before rest t → ∃ m ∈ more, a.Wins before rest m) :
    a.Kept before rest (seen.setIfInBounds t.state true) (more ++ threads) reading := by
  intro q hq hmatch
  rcases seen_cases hq with rfl | hq
  · exact .inr (Pending.append hmore (.inl (hwins hmatch)))
  · rcases h q hq hmatch with hread | ⟨hlt, hpending⟩
    · exact .inl hread
    · exact .inr (Pending.append (fun m hm => Nat.lt_trans (hmore m hm) hlt)
        (hpending.imp_left hwins))

theorem best_skip (hwins : a.Wins before rest t → ∃ t' ∈ reading, a.Wins before rest t') :
    a.best before rest position (reading.reverse ++ t :: threads) =
      a.best before rest position (reading.reverse ++ threads) := by
  rw [best_append, best_append, best_cons]
  by_cases ht : a.Wins before rest t
  · obtain ⟨t', ht', hwon⟩ := hwins ht
    obtain ⟨s, hs⟩ := Option.isSome_iff_exists.mp
      ((isSome_best position).mpr ⟨t', List.mem_reverse.mpr ht', hwon⟩)
    rw [hs, Option.some_or, Option.some_or]
  · rw [← isSome_outcome position, Option.not_isSome_iff_eq_none] at ht
    rw [ht, Option.none_or]

theorem best_replace {more : List Thread}
    (h : a.outcome before rest position t = a.best before rest position more) :
    a.best before rest position (reading.reverse ++ t :: threads) =
      a.best before rest position (reading.reverse ++ (more ++ threads)) := by
  rw [best_append, best_cons, h, ← best_append more, ← best_append]

theorem outcome_of_none (hstate : a.states[t.state]? = none) :
    a.outcome before rest position t = none := by
  rw [outcome, preferred_of_none hstate]
  rfl

theorem outcome_accept (hstate : a.states[t.state]? = some .accept) :
    a.outcome before rest position t = some ⟨t.start, position⟩ := by
  rw [outcome, preferred_accept hstate]
  rfl

theorem outcome_test {p : Place} {next : Nat} (hstate : a.states[t.state]? = some (.test p next))
    (hlt : next < t.state) : a.outcome before rest position t =
      a.best before rest position (if p.holds before rest.head? then [⟨t.start, next⟩] else []) := by
  rw [outcome, preferred_test hstate hlt]
  split
  · rw [best_singleton, outcome]
  · rfl

theorem outcome_fork {first second : Nat} (hstate : a.states[t.state]? = some (.fork first second))
    (hlt : first < t.state ∧ second < t.state) : a.outcome before rest position t =
      a.best before rest position [⟨t.start, first⟩, ⟨t.start, second⟩] := by
  rw [outcome, preferred_fork hstate hlt, best_cons, best_singleton, Option.map_or]
  rfl

variable (a before rest) in
/-- What holds while threads are followed: there are steps enough for them, each state has a mark,
no match is lost, and the threads that have been left where they are read a character. -/
structure Following (left : Nat) (threads : List Thread) (seen : Array Bool)
    (reading : List Thread) : Prop where
  enough : threads.length + 2 * unseen seen ≤ left
  size : seen.size = a.states.size
  kept : a.Kept before rest seen threads reading
  reads : ∀ t ∈ reading, a.Reads t

section Steps

variable {left : Nat}

/-- A state that has been seen, or that there is not, is passed over. -/
theorem Following.skip (h : a.Following before rest (left + 1) (t :: threads) seen reading)
    (hseen : seen.getD t.state true = true) :
    a.Following before rest left threads seen reading ∧
      (a.Wins before rest t → ∃ t' ∈ reading, a.Wins before rest t') := by
  have ht : seen.getD t.state false = true ∨ ¬ a.Wins before rest t := by
    rw [Array.getD_eq_getD_getElem?] at hseen ⊢
    cases hget : seen[t.state]? with
    | some b =>
      rw [hget] at hseen
      exact .inl hseen
    | none =>
      rw [Array.getElem?_eq_none_iff, h.size, ← Array.getElem?_eq_none_iff] at hget
      rw [Wins, preferred_of_none hget]
      exact .inr Bool.false_ne_true
  obtain ⟨hkept, hwins⟩ := h.kept.skip ht
  have henough := h.enough
  rw [List.length_cons] at henough
  exact ⟨⟨by omega, h.size, hkept, h.reads⟩, hwins⟩

theorem Following.read (h : a.Following before rest (left + 1) (t :: threads) seen reading)
    (hseen : seen.getD t.state true = false) (ht : a.Reads t) :
    a.Following before rest left threads (seen.setIfInBounds t.state true) (t :: reading) := by
  have hunseen := unseen_set hseen
  have henough := h.enough
  rw [List.length_cons] at henough
  exact ⟨by omega, by rw [Array.size_setIfInBounds, h.size], h.kept.read,
    List.forall_mem_cons.mpr ⟨ht, h.reads⟩⟩

theorem Following.replace (h : a.Following before rest (left + 1) (t :: threads) seen reading)
    (hseen : seen.getD t.state true = false) {more : List Thread} (hlength : more.length ≤ 2)
    (hmore : ∀ m ∈ more, m.state < t.state)
    (hwins : a.Wins before rest t → ∃ m ∈ more, a.Wins before rest m) :
    a.Following before rest left (more ++ threads) (seen.setIfInBounds t.state true) reading := by
  have hunseen := unseen_set hseen
  have henough := h.enough
  rw [List.length_cons] at henough
  refine ⟨?_, by rw [Array.size_setIfInBounds, h.size], h.kept.replace hmore hwins, h.reads⟩
  rw [List.length_append]
  omega

end Steps

variable (a before rest position) in
/-- Whether threads that read a character, with a thread that has come to its end here behind them,
lead to a match. -/
def LeadsTo (settled : List Thread × Option Nat) (found : Option Span) : Prop :=
  (∀ t ∈ settled.1, a.Reads t) ∧ (a.best before rest position settled.1).or
    (settled.2.map fun start => ⟨start, position⟩) = found

theorem leadsTo_reverse (hreads : ∀ t ∈ reading, a.Reads t) (start : Option Nat) :
    a.LeadsTo before rest position (reading.reverse, start)
      ((a.best before rest position reading.reverse).or (start.map fun start => ⟨start, position⟩)) :=
  ⟨fun t ht => hreads t (List.mem_reverse.mp ht), rfl⟩

variable (position) in
/-- **Following threads** leads to the match that the first of them leads to that leads to one. -/
theorem leadsTo_settle (hdesc : Descending a.states) : ∀ (left : Nat) (threads : List Thread)
    (seen : Array Bool) (reading : List Thread), a.Following before rest left threads seen reading →
    a.LeadsTo before rest position (a.settle before rest.head? left threads seen reading)
      (a.best before rest position (reading.reverse ++ threads)) := by
  intro left
  induction left with
  | zero =>
    intro threads seen reading h
    have henough := h.enough
    obtain rfl : threads = [] := List.length_eq_zero_iff.mp (by omega)
    rw [best_append]
    exact leadsTo_reverse h.reads none
  | succ left ih =>
    intro threads seen reading h
    cases threads with
    | nil =>
      rw [best_append]
      exact leadsTo_reverse h.reads none
    | cons t threads =>
      rw [settle]
      cases hseen : seen.getD t.state true with
      | true =>
        obtain ⟨hnext, hwins⟩ := h.skip hseen
        rw [if_pos rfl, best_skip hwins]
        exact ih threads seen reading hnext
      | false =>
        rw [if_neg Bool.false_ne_true]
        dsimp only
        -- What a test or a fork leads to takes the place of the thread.
        have hreplace : ∀ more : List Thread, more.length ≤ 2 →
            (∀ m ∈ more, m.state < t.state) →
            a.outcome before rest position t = a.best before rest position more →
            a.LeadsTo before rest position (a.settle before rest.head? left (more ++ threads)
              (seen.setIfInBounds t.state true) reading)
              (a.best before rest position (reading.reverse ++ t :: threads)) := by
          intro more hlength hmore houtcome
          have hwins : a.Wins before rest t → ∃ m ∈ more, a.Wins before rest m := by
            rw [← isSome_outcome position, houtcome, isSome_best]
            exact id
          rw [best_replace houtcome]
          exact ih (more ++ threads) _ reading (h.replace hseen hlength hmore hwins)
        cases hstate : a.states[t.state]? with
        | none => exact hreplace [] (Nat.zero_le 2) (fun _ h => by cases h) (outcome_of_none hstate)
        | some s =>
          have hbelow := hdesc _ _ hstate
          cases s with
          | accept =>
            rw [best_append, best_cons, outcome_accept hstate]
            exact leadsTo_reverse h.reads (some t.start)
          | read s next =>
            have hstep := ih threads _ (t :: reading) (h.read hseen ⟨s, next, hstate⟩)
            rwa [List.reverse_cons, List.append_assoc, List.singleton_append] at hstep
          | test p next =>
            dsimp only
            by_cases hholds : p.holds before rest.head? = true
            · rw [if_pos hholds]
              refine hreplace [⟨t.start, next⟩] (Nat.le_succ 1)
                (List.forall_mem_singleton.mpr hbelow) ?_
              rw [outcome_test hstate hbelow, if_pos hholds]
            · rw [if_neg hholds]
              refine hreplace [] (Nat.zero_le 2) (fun _ h => by cases h) ?_
              rw [outcome_test hstate hbelow, if_neg hholds]
          | fork first second =>
            exact hreplace [⟨t.start, first⟩, ⟨t.start, second⟩] (Nat.le_refl 2)
              (List.forall_mem_cons.mpr ⟨hbelow.1, List.forall_mem_singleton.mpr hbelow.2⟩)
              (outcome_fork hstate hbelow)

/-! ### Threads from one position to the next -/

/-- A thread that reads a character leads to the match that it leads to behind the character. -/
theorem best_step (c : Char) (hreads : ∀ t ∈ threads, a.Reads t) :
    a.best (some c) rest (position + 1) (threads.filterMap (a.step c)) =
      a.best before (c :: rest) position threads := by
  induction threads with
  | nil => rfl
  | cons t threads ih =>
    obtain ⟨⟨s, next, hstate⟩, hreads⟩ := List.forall_mem_cons.mp hreads
    have hstep : a.step c t = if s.contains c then some ⟨t.start, next⟩ else none := by
      rw [step, hstate]
    rw [best_cons, outcome, preferred_read_cons hstate, ← ih hreads]
    by_cases hmem : s.contains c = true
    · rw [if_pos hmem] at hstep
      rw [if_pos hmem, List.filterMap_cons_some hstep, best_cons, outcome, Option.map_map]
      have hshift : (fun count => (⟨t.start, position + count⟩ : Span)) ∘ (· + 1) =
          fun count => ⟨t.start, position + 1 + count⟩ := by
        funext count
        rw [Function.comp_apply, Nat.add_comm count 1, Nat.add_assoc]
      rw [hshift]
    · rw [if_neg hmem] at hstep
      rw [if_neg hmem, List.filterMap_cons_none hstep]
      rfl

theorem best_end (hreads : ∀ t ∈ threads, a.Reads t) :
    a.best before [] position threads = none := by
  rw [best, List.findSome?_eq_none_iff]
  intro t ht
  obtain ⟨s, next, hstate⟩ := hreads t ht
  rw [outcome, preferred_read_nil hstate]
  rfl

theorem kept_start : a.Kept before rest (Array.replicate a.states.size false) threads [] := by
  intro q hq _
  rw [Array.getD_eq_getD_getElem?] at hq
  by_cases hlt : q < a.states.size
  · simp [hlt] at hq
  · simp [hlt] at hq

variable (a) in
/-- The match that threads lead to, or else the best match so far, or else, as long as there is
none, the match that starts here. -/
theorem leadsTo_visit (hdesc : Descending a.states) (threads : List Thread) (found : Option Span)
    (before : Option Char) (rest : Text) (position : Nat) :
    (∀ t ∈ (a.visit threads found before rest.head? position).1, a.Reads t) ∧
      (a.best before rest position (a.visit threads found before rest.head? position).1).or
        (a.visit threads found before rest.head? position).2 =
      (a.best before rest position threads).or
        (found.or (a.outcome before rest position ⟨position, a.entry⟩)) := by
  have hseen : unseen (Array.replicate a.states.size false) = a.states.size := by
    rw [unseen, Array.toList_replicate, List.countP_replicate]
    rfl
  obtain ⟨hreads, hbest⟩ := leadsTo_settle position hdesc _
    (if found.isNone then threads ++ [⟨position, a.entry⟩] else threads) _ []
    ⟨Nat.le_succ_of_le (Nat.le_of_eq (by rw [hseen])), Array.size_replicate, kept_start,
      fun _ h => by cases h⟩
  refine ⟨hreads, ?_⟩
  rw [visit]
  dsimp only
  rw [Option.orElse_eq_or, ← Option.or_assoc, hbest, List.reverse_nil, List.nil_append]
  cases found with
  | none =>
    show (a.best before rest position (threads ++ [⟨position, a.entry⟩])).or none = _
    rw [best_append, best_singleton, Option.or_none, Option.none_or]
  | some s => rfl

/-! ### Searching -/

variable (a) in
/-- The preferred match at the first position that has one, from a position on. -/
def leftmost (before : Option Char) (position : Nat) : Text → Option Span
  | [] => a.outcome before [] position ⟨position, a.entry⟩
  | c :: rest => (a.outcome before (c :: rest) position ⟨position, a.entry⟩).or
      (leftmost (some c) (position + 1) rest)

/-- A search that has come to a position finds the match that its threads lead to, or else the best
one so far, or else the leftmost one from here on. -/
theorem advance_eq (hdesc : Descending a.states) : ∀ (rest : Text) (threads : List Thread)
    (found : Option Span) (before : Option Char) (position : Nat),
    a.advance threads found before position rest =
      (a.best before rest position threads).or (found.or (a.leftmost before position rest)) := by
  intro rest
  induction rest with
  | nil =>
    intro threads found before position
    obtain ⟨hreads, hvisit⟩ := leadsTo_visit a hdesc threads found before [] position
    rw [best_end hreads, Option.none_or] at hvisit
    rw [advance, leftmost, ← hvisit]
    rfl
  | cons c rest ih =>
    intro threads found before position
    obtain ⟨hreads, hvisit⟩ := leadsTo_visit a hdesc threads found before (c :: rest) position
    rw [List.head?_cons] at hreads hvisit
    simp only [← Option.or_assoc] at hvisit
    simp only [leftmost, ← Option.or_assoc]
    rw [← hvisit, Option.or_assoc, ← best_step c hreads, advance]
    dsimp only
    split
    · rename_i hdone
      obtain ⟨hempty, hfound⟩ := Bool.and_eq_true_iff.mp hdone
      obtain ⟨s, hs⟩ := Option.isSome_iff_exists.mp hfound
      rw [List.isEmpty_iff.mp hempty, hs]
      rfl
    · exact ih _ _ _ _

variable (a) in
/-- **Searching** finds the match of the first position that has one, taken in the preferred way. -/
theorem search_eq_leftmost (hdesc : Descending a.states) (t : Text) (position : Nat) :
    a.search t position = a.leftmost (t.take position).getLast? position (t.drop position) := by
  rw [search, advance_eq hdesc]
  rfl

end Threads

end PhoneticSearch.Regex.Automaton
