import PhoneticSearch.Calendar.Age
import PhoneticSearch.Proofs.Text.Items

/-!
# Written ages

A number is written in decimal digits, with zeros in front up to a width, and read back as it was
(`readNumber_padded`).  So is an age: the marks between its numbers are no digits
(`read_render`).  What is read of any text has months and days that are written (`read_eq_some`).
-/

namespace PhoneticSearch

/-- A text is cut at its first mark. -/
theorem Text.cutAt_append {mark : Char} {before : Text} (h : mark ∉ before) (rest : Text) :
    cutAt mark (before ++ mark :: rest) = some (before, rest) := by
  induction before with
  | nil => exact if_pos rfl
  | cons c before ih =>
    have hc : mark ≠ c := List.ne_of_not_mem_cons h
    rw [List.cons_append, cutAt, if_neg hc.symm, ih (List.not_mem_of_not_mem_cons h)]
    rfl

theorem isBlank_of_isDigit {c : Char} (h : c.isDigit = true) : isBlank c = false := by
  have hrange : 48 ≤ c.toNat ∧ c.toNat ≤ 57 := by
    simpa [Char.isDigit, UInt32.le_iff_toNat_le] using h
  simp [isBlank]
  omega

/-! ### Numbers -/

theorem Date.toList_padded (width n : Nat) : (Date.padded width n).toList =
    List.replicate (width - (Nat.repr n).length) '0' ++ Nat.toDigits 10 n := by
  rw [Date.padded, String.toList_append, String.toList_ofList, Nat.toList_repr]

/-- A number is written in digits. -/
theorem Date.isDigit_of_mem_padded {width n : Nat} {c : Char}
    (h : c ∈ (Date.padded width n).toList) : c.isDigit = true := by
  rw [Date.toList_padded] at h
  rcases List.mem_append.mp h with h | h
  · obtain rfl := List.eq_of_mem_replicate h
    rfl
  · exact Nat.isDigit_of_mem_toDigits (by decide) (by decide) h

theorem Date.padded_ne_nil (width n : Nat) : (Date.padded width n).toList ≠ [] := by
  rw [Date.toList_padded]
  exact List.append_ne_nil_of_right_ne_nil _ Nat.toDigits_ne_nil

/-- The digits of a number have its value. -/
theorem Date.value_padded (width n : Nat) :
    (Date.padded width n).toList.foldl (fun n c => 10 * n + (c.toNat - '0'.toNat)) 0 = n := by
  have hvalue : Nat.ofDigitChars 10 (Date.padded width n).toList 0 = n := by
    rw [Date.toList_padded, Nat.ofDigitChars_append, Nat.ofDigitChars_replicate_zero, Nat.mul_zero,
      Nat.ofDigitChars_ten_toDigits]
  exact hvalue

namespace Age

theorem numberBound_eq : numberBound = 4294967296 := rfl

/-- A number that is not too great is read back as it was written. -/
theorem readNumber_padded {n : Nat} (h : n < numberBound) (width : Nat) :
    readNumber (Date.padded width n).toList = some n := by
  have hdigit : ∀ c ∈ (Date.padded width n).toList, c.isDigit = true :=
    fun c hc => Date.isDigit_of_mem_padded hc
  have hne := Date.padded_ne_nil width n
  have hvalue := Date.value_padded width n
  generalize (Date.padded width n).toList = t at hdigit hne hvalue
  have htrim : Text.trim ([] ++ t ++ []) = t :=
    Text.trim_padded (List.forall_mem_nil _) (List.forall_mem_nil _)
      (fun c hc => isBlank_of_isDigit (hdigit c (List.mem_of_mem_head? hc)))
      (fun c hc => isBlank_of_isDigit (hdigit c (List.mem_of_getLast? hc)))
  rw [List.nil_append, List.append_nil] at htrim
  obtain ⟨c, rest, rfl⟩ := List.exists_cons_of_ne_nil hne
  have hplus : c ≠ '+' := by
    rintro rfl
    exact absurd (hdigit '+' (List.mem_cons_self ..)) (by decide)
  have hall : (c :: rest).all Char.isDigit = true := List.all_eq_true.mpr hdigit
  unfold readNumber
  rw [htrim]
  split
  · rename_i heq
    exact absurd (List.cons_eq_cons.mp heq).1 hplus
  · dsimp only
    rw [hall, hvalue, if_pos h]
    rfl

/-- An age is read back as it was written. -/
theorem read_render {a : Age} (hyears : a.years < numberBound) (hmonths : a.months < 12)
    (hdays : a.days < 31) : read a.render.toList = some a := by
  have hnotDigit : ∀ {mark : Char} {n : Nat}, mark.isDigit = false →
      mark ∉ (Date.padded 2 n).toList := by
    intro mark n hmark h
    rw [Date.isDigit_of_mem_padded h] at hmark
    cases hmark
  have hbound : ∀ {n : Nat}, n < 31 → n < numberBound := fun h =>
    numberBound_eq ▸ Nat.lt_trans h (by decide)
  have htext : a.render.toList = (Date.padded 2 a.years).toList ++
      ';' :: ((Date.padded 2 a.months).toList ++ '.' :: (Date.padded 2 a.days).toList) := by
    have hsemicolon : ";".toList = [';'] := rfl
    have hdot : ".".toList = ['.'] := rfl
    simp only [render, String.toList_append, hsemicolon, hdot, List.append_assoc, List.cons_append,
      List.nil_append]
  have hparts : parts a.render.toList = ((Date.padded 2 a.years).toList,
      (Date.padded 2 a.months).toList, (Date.padded 2 a.days).toList) := by
    rw [parts, htext, Text.cutAt_append (hnotDigit rfl)]
    dsimp only
    rw [Text.cutAt_append (hnotDigit rfl)]
  rw [read, hparts]
  simp only [readNumber_padded hyears, readNumber_padded (hbound (by omega : a.months < 31)),
    readNumber_padded (hbound hdays), Option.bind_eq_bind, Option.bind_some]
  exact if_pos ⟨hmonths, hdays⟩

theorem lt_of_readNumber {t : Text} {n : Nat} (h : readNumber t = some n) : n < numberBound := by
  unfold readNumber at h
  simp only [Option.ite_none_left_eq_some, Option.ite_none_right_eq_some] at h
  obtain ⟨-, hlt, heq⟩ := h
  exact Option.some.inj heq ▸ hlt

/-- The numbers that are read of a text are those of an age that can be written. -/
theorem read_eq_some {t : Text} {a : Age} (h : read t = some a) :
    a.years < numberBound ∧ a.months < 12 ∧ a.days < 31 := by
  unfold read at h
  simp only [Option.bind_eq_bind, Option.bind_eq_some_iff] at h
  obtain ⟨y, hyears, m, -, d, -, h⟩ := h
  split at h
  · obtain rfl := Option.some.inj h
    exact ⟨lt_of_readNumber hyears, ‹_›⟩
  · cases h

end Age

end PhoneticSearch
