import Mathlib.Data.List.Basic
import PhoneticSearch.Text.Blank
import PhoneticSearch.Text.CaseFold

/-!
# Characters that are equal but for case

The runs of characters that folding changes have no character in common, and what they are changed
to belongs to no run.  So a character of a run is folded to its image there (`fold_of_covers`), what
is folded is not folded any further (`fold_fold`), and the variants of a character are exactly the
characters that are folded to the same one (`mem_caseVariants`).  The set that is made of them has
these members and no others (`contains_ofChars_caseVariants`).  White space has no case, and nothing
else is folded to it (`isBlank_fold`).
-/

namespace PhoneticSearch

/-! ### Runs -/

namespace CaseRun

variable {r r' : CaseRun} {c : Char}

/-- The run of the images. -/
def shifted (r : CaseRun) : CaseRun :=
  ⟨(r.first + r.shift).toNat, (r.last + r.shift).toNat, r.stride, 0⟩

/-- Whether every other place at most is one of a run. -/
def isAlternate (r : CaseRun) : Bool := r.stride == 2 || r.first == r.last

/-- Whether two runs are told apart by their ends, or by taking turns. -/
def apart (r r' : CaseRun) : Bool :=
  -- The kernel compares numbers in this form at once; the runs are compared two by two below.
  Nat.blt r.last r'.first || Nat.blt r'.last r.first ||
    r.isAlternate && r'.isAlternate && (r.first + r'.first) % 2 == 1

/-- Whether the images of a run are characters. -/
def shiftsToChars (r : CaseRun) : Bool :=
  0 < r.first + r.shift && (r.last + r.shift < 0xD800 ||
    0xDFFF < r.first + r.shift && r.last + r.shift < 0x110000)

theorem covers_iff : r.covers c = true ↔
    r.first ≤ c.toNat ∧ c.toNat ≤ r.last ∧ (c.toNat - r.first) % r.stride = 0 := by
  simp [covers, and_assoc]

theorem not_covers_of_apart (h : r.apart r' = true) (hc : r.covers c = true) :
    r'.covers c = false := by
  rw [← Bool.not_eq_true, covers_iff]
  rw [covers_iff] at hc
  simp only [apart, isAlternate, Bool.or_eq_true, Bool.and_eq_true, Nat.blt_eq, beq_iff_eq] at h
  rintro ⟨hfirst', hlast', hstride'⟩
  obtain ⟨hfirst, hlast, hstride⟩ := hc
  rcases h with (h | h) | ⟨⟨h | h, h' | h'⟩, hodd⟩
  · omega
  · omega
  · rw [h] at hstride
    rw [h'] at hstride'
    omega
  · rw [h] at hstride
    omega
  · rw [h'] at hstride'
    omega
  · omega

section Images

variable (hr : r.shiftsToChars = true) (hc : r.covers c = true)

include hr hc

theorem toNat_image : ((r.image c).toNat : Int) = c.toNat + r.shift := by
  simp only [shiftsToChars, Bool.and_eq_true, Bool.or_eq_true, decide_eq_true_eq] at hr
  obtain ⟨hfirst, hlast, -⟩ := covers_iff.mp hc
  have hvalid : (c.toNat + r.shift).toNat.isValidChar := by
    rw [Nat.isValidChar]
    omega
  have himage : (r.image c).toNat = (c.toNat + r.shift).toNat := by
    rw [image, Char.ofNat, dif_pos hvalid]
    rfl
  omega

theorem covers_shifted : r.shifted.covers (r.image c) = true := by
  have himage := toNat_image hr hc
  simp only [shiftsToChars, Bool.and_eq_true, decide_eq_true_eq] at hr
  obtain ⟨hfirst, hlast, hstride⟩ := covers_iff.mp hc
  rw [covers_iff, shifted]
  have hdistance : (r.image c).toNat - (r.first + r.shift).toNat = c.toNat - r.first := by omega
  refine ⟨?_, ?_, ?_⟩
  · show (r.first + r.shift).toNat ≤ _
    omega
  · show _ ≤ (r.last + r.shift).toNat
    omega
  · rw [hdistance, hstride]

/-- A character is found again from its image. -/
theorem source?_image : r.source? (r.image c) = some c := by
  have hback : Char.ofNat ((r.image c).toNat - r.shift).toNat = c := by
    rw [toNat_image hr hc, Int.add_sub_cancel, Int.toNat_natCast, Char.ofNat_toNat]
  rw [source?]
  simp only [hback, hc, beq_self_eq_true, Bool.and_self, if_true]

end Images

theorem of_source? {d : Char} (h : r.source? c = some d) :
    r.covers d = true ∧ r.image d = c := by
  simp only [source?, Option.ite_none_right_eq_some, Bool.and_eq_true, beq_iff_eq,
    Option.some.injEq] at h
  obtain ⟨h, rfl⟩ := h
  exact h

end CaseRun

/-! ### Folding -/

section Folding

variable {r : CaseRun} {c d : Char}

/-- Runs with a character in common would change it in the same way. -/
theorem foldRuns_apart :
    (foldRuns.all fun r => foldRuns.all fun r' => r.apart r' || r.shift == r'.shift) = true := by
  decide +kernel

theorem foldRuns_shifted :
    (foldRuns.all fun r => r.shiftsToChars && foldRuns.all fun r' => r.shifted.apart r') = true := by
  decide +kernel

theorem shiftsToChars_of_mem (hr : r ∈ foldRuns) : r.shiftsToChars = true :=
  (Bool.and_eq_true_iff.mp (List.all_eq_true.mp foldRuns_shifted r hr)).1

/-- A character is folded to its image in the run that it belongs to. -/
theorem fold_of_covers (hr : r ∈ foldRuns) (hc : r.covers c = true) : fold c = r.image c := by
  rw [fold, CaseRun.apply]
  split
  · rename_i r' hfound
    have hc' : r'.covers c = true := by simpa using List.find?_some hfound
    have hr' : r' ∈ foldRuns := List.mem_of_find?_eq_some hfound
    rcases Bool.or_eq_true_iff.mp (List.all_eq_true.mp
      (List.all_eq_true.mp foldRuns_apart r' hr') r hr) with hapart | hshift
    · exact absurd hc (by simp [CaseRun.not_covers_of_apart hapart hc'])
    · rw [CaseRun.image, CaseRun.image, beq_iff_eq.mp hshift]
  · rename_i hnone
    exact absurd hc (by simpa using List.find?_eq_none.mp hnone r hr)

theorem fold_of_not_covers (h : ∀ r ∈ foldRuns, r.covers c = false) : fold c = c := by
  have hnone : foldRuns.find? (·.covers c) = none :=
    List.find?_eq_none.mpr fun r hr => by simp [h r hr]
  rw [fold, CaseRun.apply, hnone]

/-- A character belongs to a run, or is not changed. -/
theorem fold_cases (c : Char) :
    (∃ r ∈ foldRuns, r.covers c = true ∧ fold c = r.image c) ∨ fold c = c := by
  by_cases h : ∃ r ∈ foldRuns, r.covers c = true
  · obtain ⟨r, hr, hc⟩ := h
    exact .inl ⟨r, hr, hc, fold_of_covers hr hc⟩
  · exact .inr (fold_of_not_covers (by simpa using h))

/-- What is folded is not changed any further. -/
theorem fold_fold (c : Char) : fold (fold c) = fold c := by
  rcases fold_cases c with ⟨r, hr, hc, hfold⟩ | hfold
  · have hapart := List.all_eq_true.mp
      (Bool.and_eq_true_iff.mp (List.all_eq_true.mp foldRuns_shifted r hr)).2
    rw [hfold]
    exact fold_of_not_covers fun r' hr' => CaseRun.not_covers_of_apart (hapart r' hr')
      (CaseRun.covers_shifted (shiftsToChars_of_mem hr) hc)
  · rw [hfold, hfold]

/-- The variants of a character are those that are folded to the same one. -/
theorem mem_caseVariants : d ∈ caseVariants c ↔ fold d = fold c := by
  rw [caseVariants, List.mem_eraseDups, List.mem_cons, List.mem_filterMap]
  constructor
  · rintro (rfl | ⟨r, hr, hsource⟩)
    · exact fold_fold c
    · obtain ⟨hd, himage⟩ := CaseRun.of_source? hsource
      rw [fold_of_covers hr hd, himage]
  · intro heq
    rcases fold_cases d with ⟨r, hr, hd, hfold⟩ | hfold
    · refine .inr ⟨r, hr, ?_⟩
      rw [← heq, hfold]
      exact CaseRun.source?_image (shiftsToChars_of_mem hr) hd
    · exact .inl (hfold.symm.trans heq)

end Folding

/-! ### White space -/

/-- White space, as runs of characters that stay what they are. -/
def blankRuns : List CaseRun :=
  [(0x9, 0xD), (0x20, 0x20), (0x85, 0x85), (0xA0, 0xA0), (0x1680, 0x1680), (0x2000, 0x200A),
   (0x2028, 0x2029), (0x202F, 0x202F), (0x205F, 0x205F), (0x3000, 0x3000)].map
    fun (first, last) => ⟨first, last, 1, 0⟩

theorem isBlank_iff_covers {c : Char} :
    isBlank c = true ↔ ∃ r ∈ blankRuns, r.covers c = true := by
  simp only [isBlank, blankRuns, List.map_cons, List.map_nil, List.exists_mem_cons_iff,
    List.not_mem_nil, false_and, exists_false, or_false, CaseRun.covers_iff, Nat.mod_one,
    and_true, Bool.or_eq_true, Bool.and_eq_true, decide_eq_true_eq, beq_iff_eq]
  omega

/-- A character of a run that is apart from white space is none. -/
theorem isBlank_of_apart {r : CaseRun} {c : Char}
    (h : (blankRuns.all fun b => r.apart b) = true) (hc : r.covers c = true) :
    isBlank c = false := by
  rw [Bool.eq_false_iff, Ne, isBlank_iff_covers]
  rintro ⟨b, hb, hcovers⟩
  have hnot := CaseRun.not_covers_of_apart (List.all_eq_true.mp h b hb) hc
  exact absurd hcovers (by simp [hnot])

/-- White space is neither folded nor what anything is folded to. -/
theorem foldRuns_blank : (foldRuns.all fun r => (blankRuns.all fun b => r.apart b) &&
    blankRuns.all fun b => r.shifted.apart b) = true := by
  decide +kernel

/-- Folding keeps white space and all else apart. -/
theorem isBlank_fold (c : Char) : isBlank (fold c) = isBlank c := by
  rcases fold_cases c with ⟨r, hr, hc, hfold⟩ | hfold
  · obtain ⟨hrun, himages⟩ := Bool.and_eq_true_iff.mp (List.all_eq_true.mp foldRuns_blank r hr)
    have himage := CaseRun.covers_shifted (shiftsToChars_of_mem hr) hc
    rw [hfold, isBlank_of_apart hrun hc, isBlank_of_apart himages himage]
  · rw [hfold]

/-! ### Sets -/

namespace CharSet

variable {n : Nat} {ranges : List (Nat × Nat)}

/-- Merging ranges in order keeps the numbers in them. -/
theorem reaches_merge : ∀ (rest : List (Nat × Nat)) (current : Nat × Nat),
    (current :: rest).Pairwise (fun r r' => r.1 ≤ r'.1) → (∀ r ∈ current :: rest, r.1 ≤ r.2) →
    (reaches n (merge current rest) = true ↔ ∃ r ∈ current :: rest, r.1 ≤ n ∧ n ≤ r.2) := by
  intro rest
  induction rest with
  | nil =>
    intro current _ _
    simp only [merge, reaches, List.mem_singleton, exists_eq_left]
    split <;> simp <;> omega
  | cons r rest ih =>
    intro current hsorted hnonempty
    obtain ⟨hcurrent, hrest⟩ := List.pairwise_cons.mp hsorted
    obtain ⟨hstart, hlater⟩ := List.forall_mem_cons.mp hcurrent
    obtain ⟨hle, hnonempty⟩ := List.forall_mem_cons.mp hnonempty
    obtain ⟨hle', hnonempty'⟩ := List.forall_mem_cons.mp hnonempty
    rw [merge]
    split
    · have hboth : ∀ n, (current.1 ≤ n ∧ n ≤ max current.2 r.2) ↔
          (current.1 ≤ n ∧ n ≤ current.2) ∨ (r.1 ≤ n ∧ n ≤ r.2) := by omega
      have hmerged : current.1 ≤ max current.2 r.2 := Nat.le_trans hle (Nat.le_max_left _ _)
      rw [ih (current.1, max current.2 r.2) (List.pairwise_cons.mpr ⟨hlater, hrest.of_cons⟩)
        (List.forall_mem_cons.mpr ⟨hmerged, hnonempty'⟩)]
      simp only [List.exists_mem_cons_iff, hboth, or_assoc]
    · rw [reaches]
      split
      · -- What starts behind the end of the first range does not reach back.
        have hbehind : ∀ r' ∈ r :: rest, ¬ (r'.1 ≤ n ∧ n ≤ r'.2) := by
          intro r' hr'
          have hfirst : r.1 ≤ r'.1 := by
            rcases List.mem_cons.mp hr' with rfl | hr'
            · exact Nat.le_refl _
            · exact (List.pairwise_cons.mp hrest).1 r' hr'
          omega
        rw [List.exists_mem_cons_iff, decide_eq_true_eq]
        constructor
        · exact fun hn => .inl ⟨hn, by assumption⟩
        · rintro (hn | ⟨r', hr', hn⟩)
          · exact hn.1
          · exact absurd hn (hbehind r' hr')
      · rw [ih r hrest hnonempty, List.exists_mem_cons_iff _ current]
        constructor
        · exact .inr
        · rintro (hn | hn)
          · omega
          · exact hn

theorem has_ofRanges (h : ∀ r ∈ ranges, r.1 ≤ r.2) :
    (ofRanges ranges).has n = true ↔ ∃ r ∈ ranges, r.1 ≤ n ∧ n ≤ r.2 := by
  have hsorted : (ranges.mergeSort fun a b => decide (a.1 ≤ b.1)).Pairwise
      fun r r' => decide (r.1 ≤ r'.1) = true :=
    List.pairwise_mergeSort (fun a b c => by simpa using Nat.le_trans)
      (fun a b => by simpa using Nat.le_total a.1 b.1) ranges
  have hmem : ∀ r, r ∈ (ranges.mergeSort fun a b => decide (a.1 ≤ b.1)) ↔ r ∈ ranges :=
    fun _ => List.mem_mergeSort
  simp only [decide_eq_true_eq] at hsorted
  simp only [← hmem] at h ⊢
  rw [ofRanges, has]
  cases hcases : ranges.mergeSort fun a b => decide (a.1 ≤ b.1) with
  | nil => simp [empty, reaches]
  | cons r rest =>
    rw [hcases] at hsorted h
    exact reaches_merge rest r hsorted h

/-- The set of some characters has these and no others. -/
theorem contains_ofChars {cs : List Char} {c : Char} :
    (ofChars cs).contains c = true ↔ c ∈ cs := by
  rw [contains, ofChars, has_ofRanges (by simp)]
  simp only [List.mem_map, exists_exists_and_eq_and]
  constructor
  · rintro ⟨d, hd, hle, hge⟩
    rwa [Char.toNat_inj.mp (Nat.le_antisymm hge hle)]
  · exact fun hc => ⟨c, hc, Nat.le_refl _, Nat.le_refl _⟩

/-- The set of the variants of a character has the characters that are folded to the same one. -/
theorem contains_ofChars_caseVariants {c d : Char} :
    (ofChars (caseVariants c)).contains d = true ↔ fold d = fold c :=
  contains_ofChars.trans mem_caseVariants

end CharSet

end PhoneticSearch
