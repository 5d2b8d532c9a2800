import PhoneticSearch.Pattern.Regex.Search

/-!
# The order of matches

A search with an automaton starts threads at the positions it comes through, and a match starts
where the thread started that it ends (`settle_starts`).  So a match that is searched from a
position on starts there or later, and does not stop before it starts (`search_ordered`).  The
next search goes on where a match stops, so that the matches in a text stand one behind the
other (`findAll_apart`), and so do the bytes of the hits (`Regex.find_apart`).
-/

namespace PhoneticSearch.Regex

namespace Automaton

variable (a : Automaton)

/-- Threads are followed from where they have started. -/
theorem settle_starts {P : Nat → Prop} (before after : Option Char) :
    ∀ (left : Nat) (threads : List Thread) (seen : Array Bool) (reading : List Thread),
      (∀ t ∈ threads, P t.start) → (∀ t ∈ reading, P t.start) →
      (∀ t ∈ (a.settle before after left threads seen reading).1, P t.start) ∧
        ∀ start ∈ (a.settle before after left threads seen reading).2, P start := by
  have hreverse : ∀ {reading : List Thread}, (∀ t ∈ reading, P t.start) →
      ∀ t ∈ reading.reverse, P t.start := fun h t ht => h t (List.mem_reverse.mp ht)
  intro left
  induction left with
  | zero =>
    intro threads seen reading _ hreading
    exact ⟨hreverse hreading, fun _ h => by cases h⟩
  | succ left ih =>
    intro threads seen reading hthreads hreading
    cases threads with
    | nil => exact ⟨hreverse hreading, fun _ h => by cases h⟩
    | cons t threads =>
      obtain ⟨ht, hthreads⟩ := List.forall_mem_cons.mp hthreads
      rw [settle]
      split
      · exact ih _ _ _ hthreads hreading
      · dsimp only
        split
        · exact ih _ _ _ hthreads (List.forall_mem_cons.mpr ⟨ht, hreading⟩)
        · refine ih _ _ _ ?_ hreading
          split
          · exact List.forall_mem_cons.mpr ⟨ht, hthreads⟩
          · exact hthreads
        · exact ih _ _ _ (List.forall_mem_cons.mpr ⟨ht, List.forall_mem_cons.mpr ⟨ht, hthreads⟩⟩)
            hreading
        · refine ⟨hreverse hreading, fun start hstart => ?_⟩
          obtain rfl := Option.some.inj hstart
          exact ht
        · exact ih _ _ _ hthreads hreading

/-- Whether a match that was searched from a position on starts there or later, and does not
stop before it starts. -/
def Ordered (first : Nat) (found : Option Span) : Prop :=
  ∀ s ∈ found, first ≤ s.start ∧ s.start ≤ s.stop

/-- Whether threads have started between two positions. -/
def StartedIn (first position : Nat) (threads : List Thread) : Prop :=
  ∀ t ∈ threads, first ≤ t.start ∧ t.start ≤ position

variable {first position : Nat} {threads : List Thread} {found : Option Span}

theorem visit_ordered (hfirst : first ≤ position) (hthreads : StartedIn first position threads)
    (hfound : Ordered first found) (before after : Option Char) :
    StartedIn first position (a.visit threads found before after position).1 ∧
      Ordered first (a.visit threads found before after position).2 := by
  -- A thread that is started here starts at the position itself.
  have hall : StartedIn first position
      (if found.isNone then threads ++ [⟨position, a.entry⟩] else threads) := by
    split
    · intro t ht
      rcases List.mem_append.mp ht with ht | ht
      · exact hthreads t ht
      · obtain rfl := List.mem_singleton.mp ht
        exact ⟨hfirst, Nat.le_refl position⟩
    · exact hthreads
  obtain ⟨hreading, hstart⟩ := a.settle_starts (P := fun start => first ≤ start ∧ start ≤ position)
    before after _ _ (Array.replicate a.states.size false) [] hall (fun _ h => by cases h)
  have hmatch : ∀ starts : Option Nat, (∀ start ∈ starts, first ≤ start ∧ start ≤ position) →
      Ordered first ((starts.map fun start => ⟨start, position⟩).orElse fun _ => found) := by
    intro starts hstarts
    cases starts with
    | none => exact hfound
    | some start =>
      intro s hs
      obtain rfl := Option.some.inj hs
      exact hstarts start rfl
  exact ⟨hreading, hmatch _ hstart⟩

theorem startedIn_step (hthreads : StartedIn first position threads) (c : Char) :
    StartedIn first (position + 1) (threads.filterMap (a.step c)) := by
  intro t ht
  obtain ⟨t', ht', hstep⟩ := List.mem_filterMap.mp ht
  obtain ⟨hle, hle'⟩ := hthreads t' ht'
  unfold step at hstep
  split at hstep
  · split at hstep
    · obtain rfl := Option.some.inj hstep
      exact ⟨hle, Nat.le_succ_of_le hle'⟩
    · cases hstep
  · cases hstep

theorem advance_ordered : ∀ (t : Text) {threads : List Thread} {found : Option Span}
    (before : Option Char) {position : Nat}, first ≤ position →
    StartedIn first position threads → Ordered first found →
    Ordered first (a.advance threads found before position t) := by
  intro t
  induction t with
  | nil =>
    intro threads found before position hfirst hthreads hfound
    exact (a.visit_ordered hfirst hthreads hfound before none).2
  | cons c rest ih =>
    intro threads found before position hfirst hthreads hfound
    obtain ⟨hreading, hfound'⟩ := a.visit_ordered hfirst hthreads hfound before (some c)
    rw [advance]
    dsimp only
    split
    · exact hfound'
    · exact ih (some c) (Nat.le_succ_of_le hfirst) (a.startedIn_step hreading c) hfound'

/-- A match that is searched from a position on starts there or later. -/
theorem search_ordered (t : Text) (position : Nat) : Ordered position (a.search t position) :=
  a.advance_ordered _ _ (Nat.le_refl position) (fun _ h => by cases h) (fun _ h => by cases h)

/-- The matches of a scan start where the scan does, or later. -/
theorem scan_ordered (t : Text) : ∀ (left position : Nat) (previous : Option Nat),
    ∀ s ∈ a.scan t left position previous, position ≤ s.start ∧ s.start ≤ s.stop := by
  intro left
  induction left with
  | zero => intro position previous s hs; cases hs
  | succ left ih =>
    intro position previous s hs
    rw [scan] at hs
    split at hs
    · cases hs
    · rename_i found hfound
      obtain ⟨hle, hle'⟩ := a.search_ordered t position found hfound
      split at hs
      · split at hs
        · obtain ⟨hlater, hs⟩ := ih _ _ s hs
          exact ⟨Nat.le_of_succ_le hlater, hs⟩
        · cases hs
      · rcases List.mem_cons.mp hs with rfl | hs
        · exact ⟨hle, hle'⟩
        · obtain ⟨hlater, hs⟩ := ih _ _ s hs
          exact ⟨by omega, hs⟩

theorem scan_apart (t : Text) : ∀ (left position : Nat) (previous : Option Nat),
    (a.scan t left position previous).Pairwise fun s s' => s.stop ≤ s'.start := by
  intro left
  induction left with
  | zero => intro position previous; exact .nil
  | succ left ih =>
    intro position previous
    rw [scan]
    split
    · exact .nil
    · split
      · split
        · exact ih _ _
        · exact .nil
      · exact List.pairwise_cons.mpr ⟨fun s hs => (a.scan_ordered t _ _ _ s hs).1, ih _ _⟩

theorem findAll_apart (t : Text) :
    (a.findAll t).Pairwise fun s s' => s.stop ≤ s'.start :=
  a.scan_apart t _ _ _

/-- There are matches if there is a first one. -/
theorem findAll_ne_nil_iff (t : Text) : a.findAll t ≠ [] ↔ (a.search t 0).isSome = true := by
  rw [findAll, scan]
  cases a.search t 0 with
  | none => exact ⟨fun h => absurd rfl h, fun h => by cases h⟩
  | some s =>
    -- No match has ended yet that an empty one could be passed over for.
    have hfirst : (s.isEmpty && (none : Option Nat) == some s.stop) = false := Bool.and_false _
    simp only [hfirst, Bool.false_eq_true, if_false, Option.isSome_some, iff_true]
    exact List.cons_ne_nil _ _

end Automaton

/-! ### Bytes of hits -/

theorem hitOf_stop {t : Text} {s : Span} (h : s.start ≤ s.stop) :
    (hitOf t s).span.stop = Text.size (t.take s.stop) := by
  have hsplit : t.take s.stop = t.take s.start ++ (t.drop s.start).take s.length := by
    rw [Span.length, ← List.take_add, Nat.add_sub_cancel' h]
  rw [hsplit, Text.size_append]
  rfl

theorem size_take_le {t : Text} {i j : Nat} (h : i ≤ j) :
    Text.size (t.take i) ≤ Text.size (t.take j) := by
  have hsplit : t.take j = t.take i ++ (t.drop i).take (j - i) := by
    rw [← List.take_add, Nat.add_sub_cancel' h]
  rw [hsplit, Text.size_append]
  exact Nat.le_add_right _ _

/-- The hits of an expression stand one behind the other. -/
theorem find_apart (r : Regex) (t : Text) :
    (r.find t).Pairwise fun a b => a.span.stop ≤ b.span.start := by
  refine List.pairwise_map.mpr ((r.search.findAll_apart t).imp_of_mem fun {s s'} hs _ hle => ?_)
  rw [hitOf_stop (r.search.scan_ordered t _ _ _ s hs).2]
  exact size_take_le hle

end PhoneticSearch.Regex

