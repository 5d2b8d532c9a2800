import PhoneticSearch.Proofs.Regex.Build
import PhoneticSearch.Proofs.Sequence.Translation

/-!
# Sequence patterns and the engine of regular expressions

The automaton that a pattern is compiled to prefers, at each position, what the items take there in
turn (`leads_items`).  So the matches that the engine finds in a spelling are those of a scan, up to
such that are empty (`findAll_eq_foundSpans`), and the engine matches a whole spelling if and only
if the items do (`search_whole_eq_isWhole`).
-/

namespace PhoneticSearch.Sequence

open Regex.Automaton (Leads Single readThen)

/-! ### What an item takes -/

/-- The length of the preferred match of an item and what stands behind it. -/
def Item.run (item : Item) (m : Text → Option Nat) (w : Text) : Option Nat :=
  (item.counts w).findSome? fun n => (m (w.drop n)).map (n + ·)

section Runs

variable {letters : List Char} {m : Text → Option Nat}

theorem map_drop_succ (c : Char) (w : Text) (n : Nat) :
    (m ((c :: w).drop (n + 1))).map (n + 1 + ·) = ((m (w.drop n)).map (n + ·)).map (· + 1) := by
  rw [List.drop_succ_cons, Option.map_map]
  refine congrArg (Option.map · _) (funext fun k => ?_)
  rw [Function.comp_apply]
  omega

variable {c : Char}

theorem length_takeWhile_cons (hc : c ∈ letters) (w : Text) :
    ((c :: w).takeWhile letters.contains).length = (w.takeWhile letters.contains).length + 1 := by
  rw [List.takeWhile_cons_of_pos (List.contains_iff_mem.mpr hc), List.length_cons]

theorem takeWhile_of_not_mem (hc : c ∉ letters) (w : Text) :
    (c :: w).takeWhile letters.contains = [] :=
  List.takeWhile_cons_of_neg fun h => hc (List.contains_iff_mem.mp h)

theorem counts_once (w : Text) : Item.counts ⟨letters, none⟩ w =
    if 0 < (w.takeWhile letters.contains).length then [1] else [] := by
  rw [Item.counts]
  show (List.filter _ (List.range (min _ 1 + 1))).reverse = _
  split
  · rename_i h
    rw [Nat.min_eq_right h]
    rfl
  · rename_i h
    rw [Nat.eq_zero_of_not_pos h]
    rfl

theorem counts_optional (w : Text) : Item.counts ⟨letters, some .optional⟩ w =
    if 0 < (w.takeWhile letters.contains).length then [1, 0] else [0] := by
  rw [Item.counts]
  show (List.filter _ (List.range (min _ 1 + 1))).reverse = _
  split
  · rename_i h
    rw [Nat.min_eq_right h]
    rfl
  · rename_i h
    rw [Nat.eq_zero_of_not_pos h]
    rfl

theorem counts_many (w : Text) : Item.counts ⟨letters, some .many⟩ w =
    (List.range ((w.takeWhile letters.contains).length + 1)).reverse := by
  rw [Item.counts]
  show (List.filter (fun n => decide (0 ≤ n)) _).reverse = _
  rw [List.filter_eq_self.mpr fun n _ => decide_eq_true (Nat.zero_le n)]
  rfl

theorem counts_some (w : Text) : Item.counts ⟨letters, some .some⟩ w =
    ((List.range (w.takeWhile letters.contains).length).map (· + 1)).reverse := by
  rw [Item.counts]
  show (List.filter (fun n => decide (1 ≤ n)) (List.range (_ + 1))).reverse = _
  rw [List.range_succ_eq_map, List.filter_cons_of_neg (by decide), List.filter_eq_self.mpr]
  · rfl
  · intro n hn
    obtain ⟨k, -, rfl⟩ := List.mem_map.mp hn
    exact decide_eq_true (Nat.succ_le_succ (Nat.zero_le k))

theorem findSome?_cons_or {f : Nat → Option Nat} (n : Nat) (l : List Nat) :
    (n :: l).findSome? f = (f n).or (l.findSome? f) := by
  rw [List.findSome?_cons]
  cases f n <;> rfl

theorem map_drop_zero (w : Text) : (m (w.drop 0)).map (0 + ·) = m w := by
  simp

/-- The numbers of one letter more. -/
theorem findSome?_succ (c : Char) (w : Text) (l : List Nat) :
    (l.map (· + 1)).findSome? (fun n => (m ((c :: w).drop n)).map (n + ·)) =
      (l.findSome? fun n => (m (w.drop n)).map (n + ·)).map (· + 1) := by
  rw [List.findSome?_map, List.map_findSome?]
  exact congrArg (List.findSome? · l) (funext fun n => map_drop_succ c w n)

theorem run_once (h : letters ∈ alphabet) (w : Text) :
    Item.run ⟨letters, none⟩ m w = readThen (letterSet letters) m w := by
  rw [Item.run, counts_once]
  cases w with
  | nil => rfl
  | cons c w =>
    rw [readThen]
    by_cases hc : c ∈ letters
    · rw [if_pos ((contains_letterSet h c).mpr hc), length_takeWhile_cons hc,
        if_pos (Nat.succ_pos _), findSome?_cons_or, map_drop_succ, map_drop_zero]
      exact Option.or_none
    · rw [if_neg fun hmem => hc ((contains_letterSet h c).mp hmem), takeWhile_of_not_mem hc]
      rfl

theorem run_optional (h : letters ∈ alphabet) (w : Text) :
    Item.run ⟨letters, some .optional⟩ m w = (readThen (letterSet letters) m w).or (m w) := by
  rw [← run_once h, Item.run, Item.run, counts_optional, counts_once]
  split
  · rw [findSome?_cons_or, findSome?_cons_or, findSome?_cons_or, map_drop_zero, List.findSome?_nil,
      Option.or_none, Option.or_none]
  · rw [findSome?_cons_or, map_drop_zero, List.findSome?_nil, Option.or_none, Option.none_or]

theorem run_some (h : letters ∈ alphabet) (w : Text) :
    Item.run ⟨letters, some .some⟩ m w =
      readThen (letterSet letters) (Item.run ⟨letters, some .many⟩ m) w := by
  rw [Item.run, counts_some]
  cases w with
  | nil => rfl
  | cons c w =>
    rw [readThen]
    by_cases hc : c ∈ letters
    · rw [if_pos ((contains_letterSet h c).mpr hc), length_takeWhile_cons hc, ← List.map_reverse,
        findSome?_succ, ← counts_many]
      rfl
    · rw [if_neg fun hmem => hc ((contains_letterSet h c).mp hmem), takeWhile_of_not_mem hc]
      rfl

theorem run_many (h : letters ∈ alphabet) (w : Text) :
    Item.run ⟨letters, some .many⟩ m w =
      (readThen (letterSet letters) (Item.run ⟨letters, some .many⟩ m) w).or (m w) := by
  rw [← run_some h, Item.run, Item.run, counts_many, counts_some, List.range_succ_eq_map,
    List.reverse_cons, List.findSome?_append, findSome?_cons_or, map_drop_zero, List.findSome?_nil,
    Option.or_none]

/-- What an item takes is what the automaton of its pattern prefers. -/
theorem Item.leads {item : Item} (h : item.symbols ∈ alphabet)
    {states : Array Regex.Automaton.State} {next : Nat} (hnext : Leads states next m) :
    Leads (Regex.Automaton.build states next item.pattern).1
      (Regex.Automaton.build states next item.pattern).2 (item.run m) := by
  obtain ⟨letters, q⟩ := item
  have hsingle : Single (.ofSet (letterSet letters)) (letterSet letters) := by
    rcases ofSet_letterSet_cases h with ⟨c, hset, hpattern⟩ | ⟨hne, hpattern⟩
    · rw [hpattern, hset]
      exact Regex.Automaton.single_literal c
    · rw [hpattern]
      exact Regex.Automaton.single_set hne
  cases q with
  | none => exact funext (run_once h) ▸ hnext.build_single hsingle
  | some q =>
    cases q with
    | optional => exact funext (run_optional h) ▸ hnext.build_optional hsingle
    | many => exact hnext.build_many hsingle (run_many h)
    | some => exact funext (run_some h) ▸ hnext.build_some hsingle (run_many h)

end Runs

/-! ### Patterns and automata -/

/-- The items of a pattern one behind the other prefer what they take in turn. -/
theorem leads_items {items : List Item} (halphabet : ∀ item ∈ items, item.symbols ∈ alphabet)
    {states : Array Regex.Automaton.State} {next : Nat} {stops : Text → Bool}
    (hnext : Leads states next (lengthAt stops [])) :
    Leads (Regex.Automaton.build states next (searchPattern items)).1
      (Regex.Automaton.build states next (searchPattern items)).2 (lengthAt stops items) := by
  rw [searchPattern, Regex.Automaton.build_join]
  induction items with
  | nil => exact hnext
  | cons item items ih =>
    obtain ⟨hitem, hitems⟩ := List.forall_mem_cons.mp halphabet
    exact Item.leads hitem (ih hitems)

/-! ### Searching -/

section Searching

variable {items : List Item} {w : Text}

/-- Where the items do not match, a scan goes on to the next position. -/
theorem Scans.skip_to {i j : Nat} {spans : List Span} (hij : i ≤ j) (hj : j ≤ w.length + 1)
    (hnone : ∀ k, i ≤ k → k < j → ¬ Starts items (w.drop k)) (h : Scans items w j spans) :
    Scans items w i spans := by
  induction hij using Nat.decreasingInduction with
  | self => exact h
  | of_succ k hk ih =>
    exact .skip (by omega) (hnone k (Nat.le_refl k) hk) (ih fun k' hk' => hnone k' (by omega))

/-- Whether the first place from a position on where items match is `j`, and they take `n` letters
there. -/
structure FirstMatch (items : List Item) (w : Text) (i j n : Nat) : Prop where
  start_le : i ≤ j
  stop_le : j + n ≤ w.length
  taken : ∃ counts, Greedy items (w.drop j) counts ∧ counts.sum = n
  before : ∀ k, i ≤ k → k < j → ¬ Starts items (w.drop k)

section FirstMatches

variable {i j n : Nat} {spans : List Span}

theorem FirstMatch.skip (h : FirstMatch items w i j n) (hscans : Scans items w j spans) :
    Scans items w i spans := by
  have hstop := h.stop_le
  exact hscans.skip_to h.start_le (by omega) h.before

theorem FirstMatch.take (h : FirstMatch items w i j n)
    (hscans : Scans items w (j + max n 1) spans) : Scans items w i (⟨j, j + n⟩ :: spans) := by
  obtain ⟨counts, hgreedy, rfl⟩ := h.taken
  have hstop := h.stop_le
  exact h.skip (.take (by omega) hgreedy hscans)

end FirstMatches

/-- The engine finds the first match of the items from a position on, if there is one. -/
theorem search_cases {a : Regex.Automaton}
    (ha : Leads a.states a.entry (lengthAt (fun _ => true) items)) {i : Nat} (hi : i ≤ w.length) :
    (a.search w i = none ∧ ∀ k, i ≤ k → k ≤ w.length → ¬ Starts items (w.drop k)) ∨
      ∃ j n, a.search w i = some ⟨j, j + n⟩ ∧ FirstMatch items w i j n := by
  have hstarts : ∀ k, lengthAt (fun _ => true) items (w.drop k) = none →
      ¬ Starts items (w.drop k) := by
    intro k hk
    rw [← isSome_lengthAt_true, hk]
    exact Bool.false_ne_true
  rcases ha.search_cases hi with ⟨hnone, hall⟩ | ⟨j, n, hfound, hij, hj, hn, hall⟩
  · exact .inl ⟨hnone, fun k hik hk => hstarts k (hall k hik hk)⟩
  · have hget : (lengths (fun _ => true) w items)[j]? = some (some n) := by
      rw [lengths_getElem?, if_pos hj, hn]
    exact .inr ⟨j, n, hfound, hij, lengths_within hget, lengthAt_eq_some.mp hn,
      fun k hik hk => hstarts k (hall k hik hk)⟩

/-- A bound for the steps of a scan from a position on: two for each position, one of them only
where the match in front ends. -/
def stepsFrom (w : Text) (i : Nat) (previous : Option Nat) : Nat :=
  2 * (w.length + 1 - i) + if previous = some i then 0 else 1

theorem stepsFrom_match {i j : Nat} {previous : Option Nat} (hi : i ≤ w.length) (hij : i ≤ j)
    (hne : i = j → previous ≠ some i) : stepsFrom w j (some j) < stepsFrom w i previous := by
  rw [stepsFrom, stepsFrom, if_pos rfl]
  rcases Nat.eq_or_lt_of_le hij with rfl | hlt
  · rw [if_neg (hne rfl)]
    omega
  · omega

theorem stepsFrom_next {i : Nat} (hi : i < w.length) :
    stepsFrom w (i + 1) (some i) < stepsFrom w i (some i) := by
  rw [stepsFrom, stepsFrom, if_pos rfl, if_neg (by simp)]
  omega

/-- The matches of a scan with the engine that are not empty. -/
def engineSpans (a : Regex.Automaton) (w : Text) (left i : Nat) (previous : Option Nat) :
    List Span := (a.scan w left i previous).filter (!·.isEmpty)

section EngineSpans

variable {a : Regex.Automaton} {left i j : Nat} {previous : Option Nat}

theorem engineSpans_none (h : a.search w i = none) :
    engineSpans a w (left + 1) i previous = [] := by
  rw [engineSpans, Regex.Automaton.scan, h]
  rfl

theorem engineSpans_taken {n : Nat} (h : a.search w i = some ⟨j, j + (n + 1)⟩) :
    engineSpans a w (left + 1) i previous =
      ⟨j, j + (n + 1)⟩ :: engineSpans a w left (j + (n + 1)) (some (j + (n + 1))) := by
  have hlong : Span.isEmpty ⟨j, j + (n + 1)⟩ = false := by
    simp [Span.isEmpty]
  rw [engineSpans, Regex.Automaton.scan, h]
  dsimp only
  rw [hlong, Bool.false_and, if_neg Bool.false_ne_true,
    List.filter_cons_of_pos (by simp [hlong]), engineSpans]

theorem engineSpans_empty (h : a.search w i = some ⟨j, j⟩) (hne : previous ≠ some j) :
    engineSpans a w (left + 1) i previous = engineSpans a w left j (some j) := by
  have hempty : Span.isEmpty ⟨j, j⟩ = true := decide_eq_true (Nat.le_refl j)
  rw [engineSpans, Regex.Automaton.scan, h]
  dsimp only
  rw [hempty, Bool.true_and, if_neg fun heq => hne (beq_iff_eq.mp heq),
    List.filter_cons_of_neg (by simp [hempty]), engineSpans]

/-- An empty match where the match in front ends is passed over. -/
theorem engineSpans_last (h : a.search w i = some ⟨i, i⟩) :
    engineSpans a w (left + 1) i (some i) =
      if i < w.length then engineSpans a w left (i + 1) (some i) else [] := by
  have hempty : Span.isEmpty ⟨i, i⟩ = true := decide_eq_true (Nat.le_refl i)
  rw [engineSpans, Regex.Automaton.scan, h]
  dsimp only
  rw [hempty, Bool.true_and, if_pos (beq_iff_eq.mpr rfl)]
  split <;> rfl

end EngineSpans

/-- A scan with the engine finds the matches of a scan with the items, up to such that are empty;
`previous` is the end of the match in front, if there is one. -/
theorem scan_engine {a : Regex.Automaton}
    (ha : Leads a.states a.entry (lengthAt (fun _ => true) items)) (w : Text) :
    ∀ (left i : Nat) (previous : Option Nat), i ≤ w.length → (∀ p ∈ previous, p ≤ i) →
      stepsFrom w i previous ≤ left →
      ∃ spans, Scans items w i spans ∧
        engineSpans a w left i previous = spans.filter (!·.isEmpty) := by
  intro left
  induction left with
  | zero =>
    intro i previous hi _ hleft
    rw [stepsFrom] at hleft
    omega
  | succ left ih =>
    intro i previous hi hprevious hleft
    rcases search_cases ha hi with ⟨hnone, hall⟩ | ⟨j, n, hfound, hfirst⟩
    · rw [engineSpans_none hnone]
      exact ⟨[], .skip_to (by omega) (Nat.le_refl _)
        (fun k hik hk => hall k hik (by omega)) (.done (Nat.lt_succ_self _)), rfl⟩
    · have hstart := hfirst.start_le
      -- Behind a match the scan goes on where it ends.
      have hbehind : (i = j + n → previous ≠ some i) → ∃ spans, Scans items w (j + n) spans ∧
          engineSpans a w left (j + n) (some (j + n)) = spans.filter (!·.isEmpty) := by
        intro hne
        have hsteps := stepsFrom_match hi (by omega : i ≤ j + n) hne
        exact ih (j + n) _ hfirst.stop_le (fun p hp => Nat.le_of_eq (Option.some.inj hp).symm)
          (by omega)
      cases n with
      | succ n =>
        obtain ⟨spans, hscans, heq⟩ := hbehind (by omega)
        refine ⟨⟨j, j + (n + 1)⟩ :: spans, hfirst.take ?_, ?_⟩
        · rwa [Nat.max_eq_left (by omega)]
        · rw [engineSpans_taken hfound, heq, List.filter_cons_of_pos (by simp [Span.isEmpty])]
      | zero =>
        by_cases hlast : previous = some j
        · obtain rfl : i = j := Nat.le_antisymm hstart (hprevious j hlast)
          subst hlast
          have hnext : ∃ spans, Scans items w (i + 1) spans ∧
              (if i < w.length then engineSpans a w left (i + 1) (some i) else []) =
                spans.filter (!·.isEmpty) := by
            by_cases hlt : i < w.length
            · have hsteps := stepsFrom_next hlt
              rw [if_pos hlt]
              exact ih (i + 1) _ hlt (fun p hp => Nat.le_succ_of_le (hprevious p hp)) (by omega)
            · rw [if_neg hlt]
              exact ⟨[], .done (by omega), rfl⟩
          obtain ⟨spans, hscans, heq⟩ := hnext
          refine ⟨⟨i, i⟩ :: spans, hfirst.take hscans, ?_⟩
          rw [engineSpans_last hfound, heq, List.filter_cons_of_neg (by simp [Span.isEmpty])]
        · obtain ⟨spans, hscans, heq⟩ := hbehind fun hij => hij ▸ hlast
          refine ⟨spans, hfirst.skip hscans, ?_⟩
          rw [engineSpans_empty hfound hlast]
          exact heq

/-- What the engine finds in a spelling, up to matches that are empty, are the spans that are found
with the items. -/
theorem findAll_eq_foundSpans (halphabet : ∀ item ∈ items, item.symbols ∈ alphabet) (kind : Kind)
    (t : Transcription) :
    ((Regex.Automaton.ofPattern (searchPattern items)).findAll (spelling kind t)).filter
      (!·.isEmpty) = foundSpans kind items t := by
  have ha : Leads (Regex.Automaton.ofPattern (searchPattern items)).states
      (Regex.Automaton.ofPattern (searchPattern items)).entry (lengthAt (fun _ => true) items) :=
    leads_items halphabet Regex.Automaton.leads_accept
  obtain ⟨spans, hscans, hfound⟩ := scan_engine ha (spelling kind t) (2 * (spelling kind t).length + 3)
    0 none (Nat.zero_le _) (fun _ h => by cases h) (by rw [stepsFrom, if_neg (by simp)]; omega)
  obtain ⟨spans', hscans', hfound'⟩ := exists_scan kind items t
  rw [hfound', ← hscans.unique hscans', ← hfound]
  rfl

/-! ### Whole texts -/

/-- An automaton whose entry tests for the start of a text finds no match behind it. -/
theorem leftmost_behind_start {a : Regex.Automaton} {next : Nat}
    (hentry : a.states[a.entry]? = some (.test .startText next)) (hnext : next < a.entry) :
    ∀ (rest : Text) (c : Char) (i : Nat), a.leftmost (some c) i rest = none := by
  have houtcome : ∀ (c : Char) (rest : Text) (i : Nat),
      a.outcome (some c) rest i ⟨i, a.entry⟩ = none := by
    intro c rest i
    rw [Regex.Automaton.outcome, Regex.Automaton.preferred_test hentry hnext]
    rfl
  intro rest
  induction rest with
  | nil => exact fun c i => houtcome c [] i
  | cons d rest ih =>
    intro c i
    rw [Regex.Automaton.leftmost, houtcome, ih]
    rfl

/-- The engine matches a whole spelling if and only if the items do. -/
theorem search_whole_eq_isWhole (halphabet : ∀ item ∈ items, item.symbols ∈ alphabet) (kind : Kind)
    (t : Transcription) :
    ((Regex.Automaton.ofPattern (wholePattern items)).search (spelling kind t) 0).isSome =
      isWhole kind items t := by
  have hend : Leads (Regex.Automaton.build #[.accept] 0 (.place .endText)).1
      (Regex.Automaton.build #[.accept] 0 (.place .endText)).2 (lengthAt List.isEmpty []) := by
    rw [Regex.Automaton.build]
    exact Regex.Automaton.leads_accept.endText
  have hitems := leads_items halphabet hend
  generalize hbuilt : Regex.Automaton.build _ _ (searchPattern items) = built at hitems
  have ha : Regex.Automaton.ofPattern (wholePattern items) =
      ⟨built.1.push (.test .startText built.2), built.1.size⟩ := by
    rw [← hbuilt, Regex.Automaton.ofPattern, wholePattern, Regex.Automaton.build_join]
    rfl
  have hfits : Regex.Automaton.State.Fits (built.1.size + 1) built.1.size
    (.test .startText built.2) := hitems.inside
  have hpushed := hitems.push hfits
  have houtcome : ∀ w : Text, ((Regex.Automaton.ofPattern (wholePattern items)).outcome none w 0
      ⟨0, built.1.size⟩).isSome = (lengthAt List.isEmpty items w).isSome := by
    intro w
    rw [ha, Regex.Automaton.outcome, Regex.Automaton.preferred_test Array.getElem?_push_size hfits,
      hpushed.preferred_eq]
    exact Option.isSome_map
  rw [Regex.Automaton.search_eq_leftmost _ (by rw [ha]; exact hpushed.allFit.descending), isWhole_eq,
    List.take_zero, List.getLast?_nil, List.drop_zero, ← houtcome]
  cases spelling kind t with
  | nil => rw [Regex.Automaton.leftmost, ha]
  | cons c w =>
    rw [Regex.Automaton.leftmost, ha, leftmost_behind_start Array.getElem?_push_size hfits,
      Option.or_none]

end Searching

end PhoneticSearch.Sequence
