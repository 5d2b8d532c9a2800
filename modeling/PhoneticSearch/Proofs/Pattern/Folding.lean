import Mathlib.Data.List.Forall2
import PhoneticSearch.Pattern.Plain
import PhoneticSearch.Proofs.Text.Part

/-!
# Plain patterns and whole values

A search finds the whole of a value and nothing else if and only if the value has the
characters of the pattern, as the search compares them (`findsWhole_iff`).  Whether the value
is the one that the pattern stands for is asked of the lower-case forms instead.  Where case
matters this is the same question, and where it does not it is so for texts of `Steady`
characters, whose simple case folding and lower-case form tell the same characters apart
(`isWhole_iff_findsWhole`).  A long s is not steady, nor is a capital I with a dot: there the
two answers differ (`isWhole_ne_findsWhole`).
-/

namespace PhoneticSearch

namespace Plain

variable {p : Plain} {v : Value}

/-! ### Searches for a whole text -/

/-- Whether a search has a single hit, which is the whole of a value as it is written. -/
def FindsWhole (p : Plain) (v : Value) : Prop :=
  ∃ hit, p.find v.render = [hit] ∧ hit.span = ⟨0, Text.size v.render⟩

theorem startsWith_iff {same : Char → Char → Bool} : ∀ {start t : Text},
    startsWith same start t = true ↔
      List.Forall₂ (fun a c => same a c = true) start (t.take start.length) := by
  intro start
  induction start with
  | nil => intro t; simp [startsWith]
  | cons a start ih =>
    intro t
    cases t with
    | nil => simp [startsWith]
    | cons c t => simp [startsWith, ih]

/-- What is found in a text is behind the characters that belong to the hit before. -/
theorem le_start_of_mem_hitsFrom : ∀ {t : Text} {offset skip : Nat} {hit : Hit},
    hit ∈ p.hitsFrom offset skip t → offset + Text.size (t.take skip) ≤ hit.span.start := by
  intro t
  induction t with
  | nil => intro offset skip hit h; cases skip <;> cases h
  | cons c t ih =>
    intro offset skip hit h
    have hlater : ∀ {skip}, hit ∈ p.hitsFrom (offset + c.utf8Size) skip t →
        offset + (c.utf8Size + Text.size (t.take skip)) ≤ hit.span.start := fun h =>
      Nat.add_assoc .. ▸ ih h
    cases skip with
    | succ skip => exact hlater h
    | zero =>
      have hlater' : ∀ {skip}, hit ∈ p.hitsFrom (offset + c.utf8Size) skip t →
          offset ≤ hit.span.start := fun h => Nat.le_trans (Nat.le_add_right _ _) (hlater h)
      rw [hitsFrom] at h
      split at h
      · rcases List.mem_cons.mp h with rfl | h
        · exact Nat.le_refl offset
        · exact hlater' h
      · exact hlater' h

/-- Nothing is found in a text that belongs to the hit before. -/
theorem hitsFrom_of_length_le : ∀ {t : Text} {offset skip : Nat}, t.length ≤ skip →
    p.hitsFrom offset skip t = [] := by
  intro t
  induction t with
  | nil => intro offset skip _; cases skip <;> rfl
  | cons c t ih =>
    intro offset skip h
    cases skip with
    | zero => cases h
    | succ skip => exact ih (Nat.le_of_succ_le_succ h)

/-- The whole of a value is found if and only if its characters are those of the pattern. -/
theorem findsWhole_iff_forall₂ (hneedle : p.needle ≠ []) :
    p.FindsWhole v ↔ List.Forall₂ (fun a c => p.same a c = true) p.needle v.render := by
  have hfind : ∀ t, p.find t = p.hitsFrom 0 0 t := by simp [find, hneedle]
  have hlength : 0 < p.needle.length := List.length_pos_of_ne_nil hneedle
  rw [FindsWhole, hfind]
  cases ht : v.render with
  | nil => simpa [hitsFrom] using hneedle
  | cons c rest =>
    have hsize : 0 < c.utf8Size := c.utf8Size_pos
    rw [hitsFrom]
    split
    · next hstart =>
      have hforall := startsWith_iff.mp hstart
      -- The first hit is the whole text exactly when there is no more of the text.
      constructor
      · rintro ⟨hit, hhits, hspan⟩
        obtain ⟨rfl, -⟩ := List.cons_eq_cons.mp hhits
        have hstop : 0 + Text.size ((c :: rest).take p.needle.length) = Text.size (c :: rest) :=
          congrArg Span.stop hspan
        have hsplit := Text.size_append ((c :: rest).take p.needle.length)
          ((c :: rest).drop p.needle.length)
        rw [List.take_append_drop] at hsplit
        have hdrop : (c :: rest).drop p.needle.length = [] := Text.size_eq_zero.mp (by omega)
        rwa [List.take_of_length_le (List.drop_eq_nil_iff.mp hdrop)] at hforall
      · intro hwhole
        have hequal := hwhole.length_eq
        rw [List.length_cons] at hequal
        have htake : (c :: rest).take p.needle.length = c :: rest :=
          List.take_of_length_le (Nat.le_of_eq hequal.symm)
        rw [hitsFrom_of_length_le (by omega), htake]
        exact ⟨_, rfl, congrArg (Span.mk 0) (Nat.zero_add _)⟩
    · next hother =>
      constructor
      · rintro ⟨hit, hhits, hspan⟩
        have hlater := le_start_of_mem_hitsFrom (p := p) (hhits ▸ List.mem_singleton_self hit)
        have hstart : hit.span.start = 0 := congrArg Span.start hspan
        omega
      · intro hwhole
        refine absurd (startsWith_iff.mpr ?_) hother
        rwa [List.take_of_length_le (Nat.le_of_eq hwhole.length_eq.symm)]

/-- What a character is compared by. -/
def key (p : Plain) (c : Char) : Char := if p.caseSensitive then c else fold c

theorem same_iff {a c : Char} : p.same a c = true ↔ p.key a = p.key c := by
  cases h : p.caseSensitive <;> simp [same, key, foldEq, h]

/-- The whole of a value is found if and only if the pattern and the value are compared by the
same characters. -/
theorem findsWhole_iff (hneedle : p.needle ≠ []) :
    p.FindsWhole v ↔ p.needle.map p.key = v.render.map p.key := by
  rw [findsWhole_iff_forall₂ hneedle, ← List.forall₂_eq_eq_eq, List.forall₂_map_left_iff,
    List.forall₂_map_right_iff]
  simp only [same_iff]

/-! ### Characters that are folded as they are lower-cased -/

/-- The small letter of a character where nothing depends on the characters around it. -/
def small (c : Char) : Char := CaseRun.apply lowerRuns c

/-- Whether a character is lower-cased on its own, and folding tells it from the same
characters as lower-casing. -/
def Steady (c : Char) : Prop :=
  c ≠ 'Σ' ∧ c ≠ 'İ' ∧ fold (small c) = fold c ∧ small (fold c) = small c

instance : DecidablePred Steady := fun c =>
  inferInstanceAs (Decidable (c ≠ 'Σ' ∧ c ≠ 'İ' ∧ fold (small c) = fold c ∧
    small (fold c) = small c))

/-- Runs that start behind a character do not change it. -/
theorem apply_take {runs : List CaseRun} {c : Char} (k : Nat)
    (h : ∀ r ∈ runs.drop k, c.toNat < r.first) :
    CaseRun.apply runs c = CaseRun.apply (runs.take k) c := by
  have hnone : (runs.drop k).find? (·.covers c) = none := by
    refine List.find?_eq_none.mpr fun r hr => ?_
    simp [CaseRun.covers, Nat.not_le_of_gt (h r hr)]
  rw [CaseRun.apply, CaseRun.apply]
  conv_lhs => rw [← List.take_append_drop k runs, List.find?_append, hnone, Option.or_none]

/-- The capital ASCII letters, which are the first run of both. -/
def asciiCapitals : CaseRun := ⟨0x41, 0x5A, 1, 32⟩

/-- Folding and lower-casing are the same for ASCII characters. -/
theorem steady_of_ascii {c : Char} (h : c.toNat < 128) : Steady c := by
  -- Only the run of capital letters starts in front of the other characters.
  have hsmall : ∀ c : Char, c.toNat < 128 → small c = CaseRun.apply [asciiCapitals] c := by
    intro c h
    have hrest : ∀ r ∈ lowerRuns.drop 1, 128 ≤ r.first := by decide +kernel
    exact apply_take 1 fun r hr => Nat.lt_of_lt_of_le h (hrest r hr)
  have hfold : ∀ c : Char, c.toNat < 128 → fold c = CaseRun.apply [asciiCapitals] c := by
    intro c h
    have hrest : ∀ r ∈ foldRuns.drop 1, 128 ≤ r.first := by decide +kernel
    exact apply_take 1 fun r hr => Nat.lt_of_lt_of_le h (hrest r hr)
  have hascii : ∀ n < 128, (CaseRun.apply [asciiCapitals] (Char.ofNat n)).toNat < 128 ∧
      CaseRun.apply [asciiCapitals] (CaseRun.apply [asciiCapitals] (Char.ofNat n)) =
        CaseRun.apply [asciiCapitals] (Char.ofNat n) := by decide +kernel
  obtain ⟨hletter, htwice⟩ := hascii c.toNat h
  rw [Char.ofNat_toNat] at hletter htwice
  refine ⟨?_, ?_, ?_, ?_⟩
  · rintro rfl
    exact absurd h (by decide)
  · rintro rfl
    exact absurd h (by decide)
  · rw [hsmall c h, hfold _ hletter, hfold c h, htwice]
  · rw [hfold c h, hsmall _ hletter, hsmall c h, htwice]

theorem lowercase_eq_map {t : Text} (h : ∀ c ∈ t, Steady c) : Text.lowercase t = t.map small := by
  have hafter : ∀ (rest before : Text), (∀ c ∈ rest, Steady c) →
      Text.lowercaseAfter before rest = rest.map small := by
    intro rest
    induction rest with
    | nil => intro before _; rfl
    | cons c rest ih =>
      intro before h
      obtain ⟨hc, hrest⟩ := List.forall_mem_cons.mp h
      rw [Text.lowercaseAfter, if_neg hc.1, if_neg hc.2.1, ih _ hrest]
      rfl
  exact hafter t [] h

/-- Steady texts have the same small letters if and only if they are folded alike. -/
theorem map_small_eq_iff {s t : Text} (h : ∀ c ∈ s ++ t, Steady c) :
    s.map small = t.map small ↔ s.map fold = t.map fold := by
  have hfold : ∀ u ⊆ s ++ t, (u.map small).map fold = u.map fold := by
    intro u hu
    rw [List.map_map]
    exact List.map_congr_left fun c hc => (h c (hu hc)).2.2.1
  have hsmall : ∀ u ⊆ s ++ t, (u.map fold).map small = u.map small := by
    intro u hu
    rw [List.map_map]
    exact List.map_congr_left fun c hc => (h c (hu hc)).2.2.2
  -- Each of the two forms of a steady text is read off the other one.
  have hs : s ⊆ s ++ t := List.subset_append_left s t
  have ht : t ⊆ s ++ t := List.subset_append_right s t
  constructor
  · intro heq
    rw [← hfold s hs, ← hfold t ht, heq]
  · intro heq
    rw [← hsmall s hs, ← hsmall t ht, heq]

/-- A search finds the whole of a value and nothing else if and only if the value and the
pattern are compared by the same characters; and if case matters or the characters are steady,
this is so if and only if the value is the one that the pattern stands for. -/
theorem isWhole_iff_findsWhole (p : Plain) (v : Value) (hneedle : p.needle ≠ []) :
    (p.FindsWhole v ↔ p.needle.map p.key = v.render.map p.key) ∧
      (p.caseSensitive = true ∨ (∀ c ∈ p.needle ++ v.render, Steady c) →
        (p.isWhole v.render = true ↔ p.FindsWhole v)) := by
  refine ⟨findsWhole_iff hneedle, fun h => ?_⟩
  rw [findsWhole_iff hneedle, isWhole]
  cases hcase : p.caseSensitive with
  | true =>
    have hkey : p.key = id := funext fun c => by rw [key, hcase]; rfl
    rw [hkey, List.map_id, List.map_id, if_pos rfl, beq_iff_eq, eq_comm]
  | false =>
    have hkey : p.key = fold := funext fun c => by rw [key, hcase]; rfl
    have hsteady := h.resolve_left (by simp [hcase])
    obtain ⟨hneedle, hrender⟩ := List.forall_mem_append.mp hsteady
    rw [if_neg Bool.false_ne_true, beq_iff_eq, lowercase_eq_map hneedle,
      lowercase_eq_map hrender, eq_comm, hkey]
    exact map_small_eq_iff hsteady

/-- A word in small letters is found as the whole of the same word in capitals. -/
theorem isWhole_iff_findsWhole_cat :
    (⟨"cat".toList, false⟩ : Plain).FindsWhole (.text "CAT".toList) ∧
    ¬ (⟨"cat".toList, true⟩ : Plain).FindsWhole (.text "CAT".toList) := by
  have hascii : ("cat".toList ++ "CAT".toList).all (·.toNat < 128) = true := by decide +kernel
  have hcat : ∀ c ∈ "cat".toList ++ "CAT".toList, Steady c :=
    fun c hc => steady_of_ascii (of_decide_eq_true (List.all_eq_true.mp hascii c hc))
  constructor
  · refine ((isWhole_iff_findsWhole _ _ (by decide)).2 (.inr hcat)).mp ?_
    decide +kernel
  · rw [← (isWhole_iff_findsWhole _ _ (by decide)).2 (.inl rfl)]
    decide +kernel

/-- A small s is found as the whole of a long s, which is not the value it stands for; a
capital I with a dot stands for a small i with a dot, in which it is not found. -/
theorem isWhole_ne_findsWhole :
    ((⟨['s'], false⟩ : Plain).FindsWhole (.text ['ſ']) ∧
      (⟨['s'], false⟩ : Plain).isWhole ['ſ'] = false) ∧
    ((⟨['İ'], false⟩ : Plain).isWhole ['i', '\u0307'] = true ∧
      (⟨['İ'], false⟩ : Plain).find ['i', '\u0307'] = []) := by
  refine ⟨⟨⟨⟨⟨0, 2⟩, .text ['ſ']⟩, ?_, rfl⟩, ?_⟩, ?_, ?_⟩ <;> decide +kernel

end Plain

end PhoneticSearch
