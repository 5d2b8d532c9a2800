import PhoneticSearch.Proofs.Pattern.Folding

/-!
# The occurrences that a plain pattern finds

An occurrence of a plain pattern is a part of a text that has the characters of the pattern, as the
pattern compares them (`OccursAt`).  `Scans` is the law of a search: time and again the leftmost
occurrence is taken that does not start in front of the end of the one before.  At most one list of
spans obeys it (`Scans.unique`), and the search finds just this list (`scans_find`).  Whatever occurs
in the text starts inside one of the spans (`Scans.covers`).
-/

namespace PhoneticSearch

open Text (size)

namespace Plain

variable {p : Plain} {t before rest : Text} {s s' : Span} {i : Nat} {spans spans' : List Span}

/-! ### Occurrences -/

/-- Whether a part of a text that is compared by the same characters as the pattern stands at some
bytes. -/
def OccursAt (p : Plain) (t : Text) (s : Span) : Prop :=
  ∃ part : Text, part.StandsAt t s ∧ part.map p.key = p.needle.map p.key

/-- The bytes of an occurrence behind the front of a text. -/
def spanBehind (p : Plain) (before rest : Text) : Span :=
  ⟨size before, size before + size (rest.take p.needle.length)⟩

theorem startsWith_iff_map_key : startsWith p.same p.needle rest = true ↔
    (rest.take p.needle.length).map p.key = p.needle.map p.key := by
  rw [startsWith_iff, eq_comm, ← List.forall₂_eq_eq_eq, List.forall₂_map_left_iff,
    List.forall₂_map_right_iff]
  simp only [same_iff]

theorem length_le_of_startsWith (h : startsWith p.same p.needle rest = true) :
    p.needle.length ≤ rest.length := by
  have hlength := congrArg List.length (startsWith_iff_map_key.mp h)
  simp only [List.length_map, List.length_take] at hlength
  omega

/-- A pattern occurs where what is left of the text starts with it. -/
theorem occursAt_iff : p.OccursAt t s ↔ ∃ before rest, t = before ++ rest ∧
    startsWith p.same p.needle rest = true ∧ s = p.spanBehind before rest := by
  constructor
  · rintro ⟨part, ⟨before, after, rfl, hstart, hstop⟩, hkey⟩
    have hlength : part.length = p.needle.length := by simpa using congrArg List.length hkey
    have hpart : (part ++ after).take p.needle.length = part := by
      rw [← hlength]
      exact List.take_left
    refine ⟨before, part ++ after, List.append_assoc .., ?_, ?_⟩
    · rw [startsWith_iff_map_key, hpart, hkey]
    · rw [spanBehind, hpart, ← hstop, ← hstart]
  · rintro ⟨before, rest, rfl, hstarts, rfl⟩
    refine ⟨_, ⟨before, rest.drop p.needle.length, ?_, rfl, rfl⟩,
      startsWith_iff_map_key.mp hstarts⟩
    rw [List.append_assoc, List.take_append_drop]

/-- An occurrence that is not in front of a place. -/
theorem OccursAt.behind (h : p.OccursAt (before ++ rest) s) (hle : size before ≤ s.start) :
    ∃ between rest', rest = between ++ rest' ∧ startsWith p.same p.needle rest' = true ∧
      s = p.spanBehind (before ++ between) rest' := by
  obtain ⟨before', rest', heq, hstarts, rfl⟩ := occursAt_iff.mp h
  obtain ⟨between, rfl, rfl⟩ := Text.append_eq_append_of_size_le heq hle
  exact ⟨between, rest', rfl, hstarts, rfl⟩

/-- There is one occurrence at most that starts at a place. -/
theorem OccursAt.eq (h : p.OccursAt t s) (h' : p.OccursAt t s') (hstart : s.start = s'.start) :
    s = s' := by
  obtain ⟨before, rest, rfl, -, rfl⟩ := occursAt_iff.mp h
  obtain ⟨between, rest', rfl, -, rfl⟩ := h'.behind (Nat.le_of_eq hstart)
  have hsize : size before = size (before ++ between) := hstart
  rw [Text.size_append] at hsize
  obtain rfl : between = [] := Text.size_eq_zero.mp (by omega)
  rw [List.append_nil, List.nil_append]

/-- What occurs in a text is not empty. -/
theorem OccursAt.start_lt_stop (hneedle : p.needle ≠ []) (h : p.OccursAt t s) :
    s.start < s.stop := by
  obtain ⟨part, ⟨before, after, -, hstart, hstop⟩, hkey⟩ := h
  have hpart : part ≠ [] := by
    rintro rfl
    exact hneedle (List.map_eq_nil_iff.mp hkey.symm)
  have hsize : size part ≠ 0 := mt Text.size_eq_zero.mp hpart
  omega

theorem OccursAt.start_lt_size (hneedle : p.needle ≠ []) (h : p.OccursAt t s) :
    s.start < size t := by
  obtain ⟨part, hpart, -⟩ := id h
  exact Nat.lt_of_lt_of_le (h.start_lt_stop hneedle) hpart.stop_le_size

/-! ### The law of a search -/

/-- Whether some spans are those that a search takes from a place on: the leftmost occurrence that
starts there or behind it, and so on from its end. -/
inductive Scans (p : Plain) (t : Text) : Nat → List Span → Prop
  | done {i : Nat} (h : ∀ s, p.OccursAt t s → s.start < i) : Scans p t i []
  | take {i : Nat} {s : Span} {spans : List Span} (hs : p.OccursAt t s) (hi : i ≤ s.start)
      (hleftmost : ∀ s', p.OccursAt t s' → i ≤ s'.start → s.start ≤ s'.start)
      (hrest : Scans p t s.stop spans) : Scans p t i (s :: spans)

/-- Only one list of spans obeys the law. -/
theorem Scans.unique (h : p.Scans t i spans) (h' : p.Scans t i spans') : spans = spans' := by
  induction h generalizing spans' with
  | done hnone =>
    cases h' with
    | done => rfl
    | take hs hi => exact absurd (hnone _ hs) (Nat.not_lt_of_le hi)
  | take hs hi hleftmost hrest ih =>
    cases h' with
    | done hnone => exact absurd (hnone _ hs) (Nat.not_lt_of_le hi)
    | take hs' hi' hleftmost' hrest' =>
      obtain rfl := hs.eq hs' (Nat.le_antisymm (hleftmost _ hs' hi') (hleftmost' _ hs hi))
      rw [ih hrest']

theorem Scans.occursAt (h : p.Scans t i spans) : ∀ s ∈ spans, p.OccursAt t s := by
  induction h with
  | done _ => exact List.forall_mem_nil _
  | take hs _ _ _ ih => exact List.forall_mem_cons.mpr ⟨hs, ih⟩

/-- What occurs in the text does not start between the spans, nor behind the last one. -/
theorem Scans.covers (h : p.Scans t i spans) (hs : p.OccursAt t s) (hi : i ≤ s.start) :
    ∃ s' ∈ spans, s'.start ≤ s.start ∧ s.start < s'.stop := by
  induction h with
  | done hnone => exact absurd (hnone s hs) (Nat.not_lt_of_le hi)
  | @take i s' spans hs' hi' hleftmost hrest ih =>
    rcases Nat.lt_or_ge s.start s'.stop with hlt | hge
    · exact ⟨s', List.mem_cons_self, hleftmost s hs hi, hlt⟩
    · obtain ⟨s'', hmem, hinside⟩ := ih hge
      exact ⟨s'', List.mem_cons_of_mem _ hmem, hinside⟩

/-- Where nothing occurs, a search goes on behind the next character. -/
theorem Scans.skip {c : Char} (hnot : startsWith p.same p.needle (c :: rest) ≠ true)
    (h : p.Scans (before ++ c :: rest) (size (before ++ [c])) spans) :
    p.Scans (before ++ c :: rest) (size before) spans := by
  have hle : size before ≤ size (before ++ [c]) := by
    rw [Text.size_append]
    exact Nat.le_add_right _ _
  have hlater : ∀ s, p.OccursAt (before ++ c :: rest) s → size before ≤ s.start →
      size (before ++ [c]) ≤ s.start := by
    intro s hs hstart
    obtain ⟨between, rest', heq, hstarts, rfl⟩ := hs.behind hstart
    cases between with
    | nil => exact absurd (heq ▸ hstarts) hnot
    | cons d between =>
      obtain ⟨rfl, rfl⟩ := List.cons.inj heq
      show size (before ++ [c]) ≤ size (before ++ c :: between)
      simp only [Text.size_append, Text.size_cons, Text.size_nil]
      omega
  cases h with
  | done hnone =>
    refine .done fun s hs => Nat.lt_of_not_le fun hstart => ?_
    exact absurd (hnone s hs) (Nat.not_lt_of_le (hlater s hs hstart))
  | take hs hi hleftmost hrest =>
    exact .take hs (Nat.le_trans hle hi)
      (fun s' hs' hstart => hleftmost s' hs' (hlater s' hs' hstart)) hrest

/-- Where the pattern occurs, a search takes the occurrence and goes on behind it. -/
theorem Scans.hit (hstarts : startsWith p.same p.needle rest = true)
    (h : p.Scans (before ++ rest) (size (before ++ rest.take p.needle.length)) spans) :
    p.Scans (before ++ rest) (size before) (p.spanBehind before rest :: spans) := by
  rw [Text.size_append] at h
  exact .take (occursAt_iff.mpr ⟨before, rest, rfl, hstarts, rfl⟩) (Nat.le_refl _)
    (fun _ _ hle => hle) h

/-! ### The search -/

/-- The hits behind the characters that belong to the hit before. -/
theorem hitsFrom_skip : ∀ (rest : Text) (offset skip : Nat), p.hitsFrom offset skip rest =
    p.hitsFrom (offset + size (rest.take skip)) 0 (rest.drop skip) := by
  intro rest
  induction rest with
  | nil => intro offset skip; cases skip <;> rfl
  | cons c rest ih =>
    intro offset skip
    cases skip with
    | zero => rfl
    | succ skip =>
      rw [hitsFrom, ih, List.take_succ_cons, List.drop_succ_cons, Text.size_cons, Nat.add_assoc]

theorem hitsFrom_of_not_startsWith {c : Char} (h : startsWith p.same p.needle (c :: rest) ≠ true) :
    p.hitsFrom (size before) 0 (c :: rest) = p.hitsFrom (size (before ++ [c])) 0 rest := by
  rw [hitsFrom, if_neg h]
  simp

/-- The hit where the pattern occurs, and those behind it. -/
theorem hitsFrom_of_startsWith (hneedle : p.needle ≠ [])
    (h : startsWith p.same p.needle rest = true) :
    p.hitsFrom (size before) 0 rest =
      ⟨p.spanBehind before rest, .text (rest.take p.needle.length)⟩ ::
        p.hitsFrom (size (before ++ rest.take p.needle.length)) 0
          (rest.drop p.needle.length) := by
  obtain ⟨n, hn⟩ : ∃ n, p.needle.length = n + 1 :=
    Nat.exists_eq_succ_of_ne_zero (mt List.length_eq_zero_iff.mp hneedle)
  cases rest with
  | nil =>
    have hlength := congrArg List.length (startsWith_iff_map_key.mp h)
    simp [hn] at hlength
  | cons c rest =>
    rw [hitsFrom, if_pos h, hitsFrom_skip rest]
    simp only [spanBehind, hn, Nat.add_sub_cancel, List.take_succ_cons, List.drop_succ_cons,
      Text.size_cons, Text.size_append, Nat.add_assoc]

/-- The hits behind the front of a text obey the law. -/
theorem scans_hitsFrom (hneedle : p.needle ≠ []) : ∀ (left : Nat) (before rest : Text),
    rest.length ≤ left →
    p.Scans (before ++ rest) (size before) ((p.hitsFrom (size before) 0 rest).map (·.span)) := by
  intro left
  induction left with
  | zero =>
    intro before rest hleft
    obtain rfl := List.length_eq_zero_iff.mp (Nat.le_zero.mp hleft)
    rw [List.append_nil]
    exact .done fun s hs => hs.start_lt_size hneedle
  | succ left ih =>
    intro before rest hleft
    cases rest with
    | nil => exact .done fun s hs => by simpa using hs.start_lt_size hneedle
    | cons c rest =>
      by_cases hstarts : startsWith p.same p.needle (c :: rest) = true
      · have hneedle' := List.length_pos_of_ne_nil hneedle
        have hscan := ih (before ++ (c :: rest).take p.needle.length)
          ((c :: rest).drop p.needle.length) (by rw [List.length_drop]; omega)
        rw [List.append_assoc, List.take_append_drop] at hscan
        rw [hitsFrom_of_startsWith hneedle hstarts]
        exact hscan.hit hstarts
      · have hscan := ih (before ++ [c]) rest (Nat.le_of_succ_le_succ hleft)
        rw [List.append_assoc, List.singleton_append] at hscan
        rw [hitsFrom_of_not_startsWith hstarts]
        exact hscan.skip hstarts

theorem find_eq_hitsFrom (hneedle : p.needle ≠ []) (t : Text) : p.find t = p.hitsFrom 0 0 t := by
  simp [find, hneedle]

/-- A search finds what its law says. -/
theorem scans_find (hneedle : p.needle ≠ []) (t : Text) :
    p.Scans t 0 ((p.find t).map (·.span)) := by
  rw [find_eq_hitsFrom hneedle]
  exact scans_hitsFrom hneedle t.length [] t (Nat.le_refl _)

end Plain

end PhoneticSearch
