import Mathlib.Order.Bounds.Basic
import PhoneticSearch.Proofs.Calendar.Date
import PhoneticSearch.Proofs.Calendar.Written

/-!
# Ages and the calendar

`Counts` says what the age of a person is at a date: the greatest number of month anniversaries that
are not after the date, and the days from the last of them to the date.  The search for the last
anniversary starts at the month of the date, where there may be one too many, and a step back is
enough to come to the last one (`exists_lastAnniversary`).  So an age is found at each date from the
birth on, and it is the one that counts (`between_eq_some_iff`).  It can be written and read back
(`between_exact`).
-/

namespace PhoneticSearch.Age

/-! ### The order -/

/-- What ages are ordered by. -/
def fields (a : Age) : Nat ×ₗ Nat ×ₗ Nat := toLex (a.years, toLex (a.months, a.days))

theorem fields_injective : Function.Injective fields := by
  rintro ⟨_, _, _⟩ ⟨_, _, _⟩ h
  simpa [fields] using h

/-- Ages are in the order of their years, then of their months, then of their days. -/
instance : LinearOrder Age := LinearOrder.lift' fields fields_injective

theorem lt_iff_fields {a b : Age} : a < b ↔ a.years < b.years ∨
    (a.years = b.years ∧ (a.months < b.months ∨ (a.months = b.months ∧ a.days < b.days))) := by
  show fields a < fields b ↔ _
  simp [fields, Prod.Lex.toLex_lt_toLex]

theorem less_iff_lt {a b : Age} : a.less b = true ↔ a < b := by
  simp [less, lt_iff_fields]

/-- The months of an age, those of its years among them. -/
def totalMonths (a : Age) : Nat := 12 * a.years + a.months

/-- Ages with less than twelve months beside their years are in the order of all their months, then
of their days. -/
theorem le_iff {a b : Age} (ha : a.months < 12) (hb : b.months < 12) : a ≤ b ↔
    a.totalMonths < b.totalMonths ∨ (a.totalMonths = b.totalMonths ∧ a.days ≤ b.days) := by
  rw [← not_lt, lt_iff_fields, totalMonths, totalMonths]
  omega

/-! ### Anniversaries -/

variable {birth date : Date}

/-- Whether a month anniversary of a birth is not after a date. -/
def Passed (birth date : Date) (months : Nat) : Prop :=
  ∃ day, birth.addMonths? months = some day ∧ day ≤ date

theorem Passed.monthNumber_le {months : Nat} (h : Passed birth date months) :
    birth.monthNumber + months ≤ date.monthNumber := by
  obtain ⟨day, hday, hle⟩ := h
  rw [← (Date.addMonths?_eq_some.mp hday).1]
  exact Date.monthNumber_le hle

/-- An age counts the month anniversaries of a birth up to a date, and the days from the last one on
to the date. -/
structure Counts (birth date : Date) (age : Age) : Prop where
  months_lt : age.months < 12
  greatest : IsGreatest {n | Passed birth date n} age.totalMonths
  days : ∃ day, birth.addMonths? age.totalMonths = some day ∧ day.addDays? age.days = some date

theorem Counts.unique {a b : Age} (ha : Counts birth date a) (hb : Counts birth date b) : a = b := by
  have hmonths : a.totalMonths = b.totalMonths := ha.greatest.unique hb.greatest
  obtain ⟨day, hday, hadays⟩ := ha.days
  obtain ⟨day', hday', hbdays⟩ := hb.days
  obtain rfl : day = day' := Option.some.inj (hday.symm.trans (hmonths ▸ hday'))
  rw [Date.addDays?_eq_some] at hadays hbdays
  have hamonths := ha.months_lt
  have hbmonths := hb.months_lt
  rw [totalMonths, totalMonths] at hmonths
  obtain ⟨_, _, _⟩ := a
  obtain ⟨_, _, _⟩ := b
  simp only [Age.mk.injEq]
  dsimp only at hadays hbdays hamonths hbmonths hmonths
  omega

/-- From the last anniversary to a date it is less than a month. -/
theorem Counts.days_le {age : Age} (h : Counts birth date age) : age.days ≤ 30 := by
  obtain ⟨day, hday, hdays⟩ := h.days
  have hnumber := Date.addDays?_eq_some.mp hdays
  by_cases hroom : birth.monthNumber + (age.totalMonths + 1 : Nat) ≤ date.monthNumber
  · obtain ⟨next, hnext⟩ := Date.exists_addMonths? hroom
    have hlater : date < next := by
      refine lt_of_not_ge fun hle => ?_
      have hgreatest := h.greatest.2 ⟨next, hnext, hle⟩
      exact absurd hgreatest (Nat.not_succ_le_self _)
    have := Date.dayNumber_lt hlater
    have := Date.addMonths?_dayNumber_le hday hnext
    omega
  · -- The date is in the month of the last anniversary.
    obtain ⟨hmonth, -⟩ := Date.addMonths?_eq_some.mp hday
    have hsame : date.monthNumber = day.monthNumber := by
      have := Passed.monthNumber_le h.greatest.1
      omega
    have := date.day_le_monthLength
    have := Date.monthLength_le date.monthNumber
    have := day.day_pos
    rw [Date.dayNumber_eq, Date.dayNumber_eq, hsame] at hnumber
    omega

/-- The search for the last anniversary, begun at a month not after that of the date, comes to the
greatest number of months whose anniversary is not after the date. -/
theorem exists_lastAnniversary (h : birth ≤ date) : ∀ months : Nat,
    birth.monthNumber + months ≤ date.monthNumber →
    ∃ n day, lastAnniversary birth date months = some (n, day) ∧
      birth.addMonths? n = some day ∧ day ≤ date ∧
      ∀ m, n < m → m ≤ months → ¬ Passed birth date m := by
  intro months
  induction months with
  | zero =>
    intro _
    have hnot : ¬ date.before birth = true := by rw [Date.before_iff_lt]; exact not_lt.mpr h
    refine ⟨0, birth, ?_, birth.addMonths?_zero, h, fun m hlt hle => by omega⟩
    rw [lastAnniversary, Date.addMonths?_zero]
    exact if_neg hnot
  | succ months ih =>
    intro hmonths
    obtain ⟨day, hday⟩ := Date.exists_addMonths? hmonths
    by_cases hbefore : date.before day = true
    · obtain ⟨n, last, hlast, hn, hle, hnone⟩ := ih (by push_cast at hmonths; omega)
      refine ⟨n, last, ?_, hn, hle, fun m hlt hm => ?_⟩
      · rw [lastAnniversary, hday]
        exact (if_pos hbefore).trans hlast
      · rcases Nat.lt_or_eq_of_le hm with hm | rfl
        · exact hnone m hlt (Nat.le_of_lt_succ hm)
        · rintro ⟨day', hday', hle'⟩
          obtain rfl := Option.some.inj (hday.symm.trans hday')
          exact absurd hle' (not_le.mpr (Date.before_iff_lt.mp hbefore))
    · refine ⟨months + 1, day, ?_, hday, ?_, fun m hlt hle => by omega⟩
      · rw [lastAnniversary, hday]
        exact if_neg hbefore
      · exact not_lt.mp fun hlt => hbefore (Date.before_iff_lt.mpr hlt)

theorem Passed.birth_le {months : Nat} (h : Passed birth date months) : birth ≤ date := by
  obtain ⟨day, hday, hle⟩ := h
  rcases Nat.eq_zero_or_pos months with rfl | hpos
  · exact Option.some.inj (hday.symm.trans birth.addMonths?_zero) ▸ hle
  · exact (Date.addMonths?_lt hpos birth.addMonths?_zero hday).le.trans hle

/-- From the birth on there is an age, and it counts the anniversaries and days. -/
theorem exists_between (h : birth ≤ date) :
    ∃ age, between birth date = some age ∧ Counts birth date age := by
  have hmonths := Date.monthNumber_le h
  obtain ⟨begun, hbegun⟩ : ∃ n : Nat, date.monthNumber - birth.monthNumber = n :=
    ⟨_, (Int.toNat_of_nonneg (by omega)).symm⟩
  obtain ⟨n, day, hlast, hday, hle, hnone⟩ := exists_lastAnniversary h begun (by omega)
  obtain ⟨days, hdays⟩ : ∃ k : Nat, date.dayNumber - day.dayNumber = k := by
    have := Date.dayNumber_le_iff.mpr hle
    exact ⟨_, (Int.toNat_of_nonneg (by omega)).symm⟩
  have htotal : totalMonths ⟨n / 12, n % 12, days⟩ = n := Nat.div_add_mod n 12
  refine ⟨⟨n / 12, n % 12, days⟩, ?_, ⟨Nat.mod_lt _ (by decide), ?_, ?_⟩⟩
  · have hnot : ¬ date.before birth = true := by rw [Date.before_iff_lt]; exact not_lt.mpr h
    rw [between, if_neg hnot, Int.mem_toNat?.mpr hbegun]
    simp only [Option.bind_eq_bind, Option.bind_some, hlast, Int.mem_toNat?.mpr hdays]
    rfl
  · rw [htotal]
    refine ⟨⟨day, hday, hle⟩, fun m hm => ?_⟩
    refine not_lt.mp fun hlt => hnone m hlt ?_ hm
    have := Passed.monthNumber_le hm
    omega
  · rw [htotal]
    refine ⟨day, hday, Date.addDays?_eq_some.mpr ?_⟩
    show date.dayNumber = day.dayNumber + days
    omega

theorem between_eq_some_iff {age : Age} : between birth date = some age ↔ Counts birth date age := by
  constructor
  · intro h
    have hle : birth ≤ date := by
      refine not_lt.mp fun hlt => ?_
      rw [between, if_pos (Date.before_iff_lt.mpr hlt)] at h
      cases h
    obtain ⟨age', hage', hcounts⟩ := exists_between hle
    obtain rfl := Option.some.inj (h.symm.trans hage')
    exact hcounts
  · intro h
    obtain ⟨age', hage', hcounts⟩ := exists_between (Passed.birth_le h.greatest.1)
    rw [hage', h.unique hcounts]

/-- The years from one date of the calendar to another can be written. -/
theorem Counts.years_lt {age : Age} (h : Counts birth date age) : age.years < numberBound := by
  have hmonths := Passed.monthNumber_le h.greatest.1
  have hfirst := birth.firstYear_le
  have hlast := date.year_le
  have hmonth := date.month_le
  rw [Date.firstYear] at hfirst
  rw [Date.lastYear] at hlast
  rw [Date.monthNumber, Date.monthNumber, totalMonths] at hmonths
  rw [numberBound_eq]
  omega

/-- **Ages are exact.**  There is an age from the birth on and none before it.  It has the greatest
number of month anniversaries that are not after the date, with less than twelve months beside the
years, and the days since the last anniversary, of which there are at most 30.  So it is read back
as it was written, as is every age that was read of a text. -/
theorem between_exact (birth date : Date) :
    ((between birth date).isSome = true ↔ birth ≤ date) ∧
    (∀ age, between birth date = some age →
      IsGreatest {n | Passed birth date n} (12 * age.years + age.months) ∧
      (∃ day, birth.addMonths? (12 * age.years + age.months) = some day ∧
        day.addDays? age.days = some date) ∧
      age.months < 12 ∧ age.days ≤ 30 ∧ read age.render.toList = some age) ∧
    ∀ text age, read text = some age → read age.render.toList = some age := by
  refine ⟨⟨fun h => ?_, fun h => ?_⟩, fun age h => ?_, fun text age h => ?_⟩
  · obtain ⟨age, hage⟩ := Option.isSome_iff_exists.mp h
    exact Passed.birth_le (between_eq_some_iff.mp hage).greatest.1
  · obtain ⟨age, hage, -⟩ := exists_between h
    rw [hage]
    rfl
  · have hcounts := between_eq_some_iff.mp h
    have hdays := hcounts.days_le
    exact ⟨hcounts.greatest, hcounts.days, hcounts.months_lt, hdays,
      read_render hcounts.years_lt hcounts.months_lt (by omega)⟩
  · obtain ⟨hyears, hmonths, hdays⟩ := read_eq_some h
    exact read_render hyears hmonths hdays

/-- A child that is born on the last day of January has a month anniversary on the last day of
February, and is a day older than two years and one month on the first of March. -/
theorem between_exact_monthEnd : ∃ birth date,
    Date.of? 2020 1 31 = some birth ∧ Date.of? 2022 3 1 = some date ∧ birth ≤ date ∧
    between birth date = some ⟨2, 1, 1⟩ ∧ IsGreatest {n | Passed birth date n} 25 ∧
    (∃ day, birth.addMonths? 25 = some day ∧ day.addDays? 1 = some date) ∧
    read (render ⟨2, 1, 1⟩).toList = some ⟨2, 1, 1⟩ ∧
    read "1;11".toList = some ⟨1, 11, 0⟩ ∧ read (render ⟨1, 11, 0⟩).toList = some ⟨1, 11, 0⟩ := by
  obtain ⟨birth, hbirth, date, hdate, hage⟩ : ∃ birth, Date.of? 2020 1 31 = some birth ∧
      ∃ date, Date.of? 2022 3 1 = some date ∧ between birth date = some ⟨2, 1, 1⟩ :=
    ⟨_, rfl, _, rfl, by decide +kernel⟩
  have hread : read "1;11".toList = some ⟨1, 11, 0⟩ := by decide +kernel
  obtain ⟨hsome, hexact, hwritten⟩ := between_exact birth date
  obtain ⟨hgreatest, hdays, -, -, hback⟩ := hexact _ hage
  exact ⟨birth, date, hbirth, hdate, hsome.mp (by rw [hage]; rfl), hage, hgreatest, hdays, hback,
    hread, hwritten _ _ hread⟩

end PhoneticSearch.Age
