import Mathlib.Data.Prod.Lex
import Mathlib.Order.Monotone.Basic
import PhoneticSearch.Calendar.Date

/-!
# The order of days

Dates are ordered by year, month and day.  A date is given as well by the number of its month and
its day in the month, and in these terms the calendar is linear: the days before a month are those
before the month in front and its length (`daysBefore_succ`).  So the numbers of days are in the
order of the days (`dayNumber_le_iff`), and going on from day to day counts them
(`addDays?_eq_some`).  Months later than a date is the day that `addMonths?_eq_some` says, and both
a later date and more months lead to a later one.
-/

namespace PhoneticSearch.Date

/-! ### The order -/

/-- What dates are ordered by. -/
def fields (d : Date) : Int ×ₗ Nat ×ₗ Nat := toLex (d.year, toLex (d.month, d.day))

theorem ext_fields {a b : Date} (hyear : a.year = b.year) (hmonth : a.month = b.month)
    (hday : a.day = b.day) : a = b := by
  cases a
  cases b
  cases hyear
  cases hmonth
  cases hday
  rfl

theorem fields_injective : Function.Injective fields := by
  intro a b h
  simp only [fields, EmbeddingLike.apply_eq_iff_eq, Prod.mk.injEq] at h
  exact ext_fields h.1 h.2.1 h.2.2

/-- Dates are in the order of their years, then of their months, then of their days. -/
instance : LinearOrder Date := LinearOrder.lift' fields fields_injective

theorem lt_iff_fields {a b : Date} : a < b ↔ a.year < b.year ∨
    (a.year = b.year ∧ (a.month < b.month ∨ (a.month = b.month ∧ a.day < b.day))) := by
  show fields a < fields b ↔ _
  simp [fields, Prod.Lex.toLex_lt_toLex]

theorem before_iff_lt {a b : Date} : a.before b = true ↔ a < b := by
  simp [before, lt_iff_fields]

/-! ### Months by their numbers -/

/-- The number of days of the month with a number. -/
def monthLength (n : Int) : Nat := daysInMonth (n / 12) ((n % 12).toNat + 1)

/-- The days before the first of the month with a number. -/
def daysBefore (n : Int) : Int :=
  daysBeforeYear (n / 12) + daysBeforeMonth (n / 12) ((n % 12).toNat + 1)

theorem year_eq (d : Date) : d.year = d.monthNumber / 12 := by
  have := d.month_le
  rw [monthNumber]
  omega

theorem month_eq (d : Date) : d.month = (d.monthNumber % 12).toNat + 1 := by
  have := d.month_pos
  have := d.month_le
  rw [monthNumber]
  omega

theorem day_le_monthLength (d : Date) : d.day ≤ monthLength d.monthNumber := by
  rw [monthLength, ← year_eq, ← month_eq]
  exact d.day_le

theorem monthLength_le (n : Int) : monthLength n ≤ 31 := daysInMonth_le _ _

theorem dayNumber_eq (d : Date) : d.dayNumber = daysBefore d.monthNumber + d.day := by
  rw [dayNumber, daysBefore, ← year_eq, ← month_eq]

theorem lt_iff {a b : Date} : a < b ↔ a.monthNumber < b.monthNumber ∨
    (a.monthNumber = b.monthNumber ∧ a.day < b.day) := by
  have := a.month_pos
  have := a.month_le
  have := b.month_pos
  have := b.month_le
  rw [lt_iff_fields, monthNumber, monthNumber]
  omega

theorem le_iff {a b : Date} : a ≤ b ↔ a.monthNumber < b.monthNumber ∨
    (a.monthNumber = b.monthNumber ∧ a.day ≤ b.day) := by
  rw [← not_lt, lt_iff]
  omega

theorem monthNumber_le {a b : Date} (h : a ≤ b) : a.monthNumber ≤ b.monthNumber := by
  rw [le_iff] at h
  omega

/-- The days of a year are those before its last month and the 31 of that month. -/
theorem daysBeforeYear_succ (year : Int) :
    daysBeforeYear (year + 1) = daysBeforeYear year + daysBeforeMonth year 12 + 31 := by
  have hlength : daysBeforeMonth year 12 = if isLeap year then 335 else 334 := by
    simp only [daysBeforeMonth, daysInMonth]
    cases isLeap year <;> rfl
  rw [hlength, daysBeforeYear, daysBeforeYear]
  by_cases hleap : isLeap year = true
  · rw [if_pos hleap]
    simp only [isLeap, Bool.and_eq_true, Bool.or_eq_true, beq_iff_eq, bne_iff_ne] at hleap
    omega
  · rw [if_neg hleap]
    simp only [isLeap, Bool.and_eq_true, Bool.or_eq_true, beq_iff_eq, bne_iff_ne] at hleap
    omega

/-- The days before a month are those before the month in front and its length. -/
theorem daysBefore_succ (n : Int) : daysBefore (n + 1) = daysBefore n + monthLength n := by
  obtain ⟨year, month, hmonth, rfl⟩ : ∃ (year : Int) (month : Nat), month < 12 ∧
      n = year * 12 + month := ⟨n / 12, (n % 12).toNat, by omega, by omega⟩
  have hyear : (year * 12 + (month : Int)) / 12 = year := by omega
  have hnumber : ((year * 12 + (month : Int)) % 12).toNat = month := by omega
  rw [daysBefore, daysBefore, monthLength, hyear, hnumber]
  by_cases hlast : month = 11
  · subst hlast
    have hyear' : (year * 12 + ((11 : Nat) : Int) + 1) / 12 = year + 1 := by omega
    have hnumber' : ((year * 12 + ((11 : Nat) : Int) + 1) % 12).toNat = 0 := by omega
    rw [hyear', hnumber', daysBeforeYear_succ]
    exact Int.add_zero _
  · have hyear' : (year * 12 + (month : Int) + 1) / 12 = year := by omega
    have hnumber' : ((year * 12 + (month : Int) + 1) % 12).toNat = month + 1 := by omega
    rw [hyear', hnumber', daysBeforeMonth]
    · push_cast
      omega
    · omega

/-- A month is over before a later one begins. -/
theorem daysBefore_add_le {m n : Int} (h : m < n) : daysBefore m + monthLength m ≤ daysBefore n := by
  obtain ⟨k, rfl⟩ : ∃ k : Nat, n = m + 1 + k := ⟨(n - (m + 1)).toNat, by omega⟩
  clear h
  induction k with
  | zero =>
    have hnext := daysBefore_succ m
    simpa using hnext.ge
  | succ k ih =>
    have hnext := daysBefore_succ (m + 1 + k)
    push_cast at ih ⊢
    rw [show m + 1 + ((k : Int) + 1) = m + 1 + k + 1 by omega]
    omega

theorem dayNumber_lt {a b : Date} (h : a < b) : a.dayNumber < b.dayNumber := by
  have ha := a.day_le_monthLength
  have hb := b.day_pos
  rw [dayNumber_eq, dayNumber_eq]
  rcases lt_iff.mp h with hlt | ⟨heq, hday⟩
  · have := daysBefore_add_le hlt
    omega
  · rw [heq]
    omega

/-- The numbers of days are in the order of the days. -/
theorem dayNumber_le_iff {a b : Date} : a.dayNumber ≤ b.dayNumber ↔ a ≤ b := by
  have hmono : StrictMono dayNumber := fun _ _ => dayNumber_lt
  exact hmono.le_iff_le

/-! ### Going on from day to day -/

theorem of?_eq_some {year : Int} {month day : Nat} {d : Date} :
    of? year month day = some d ↔ d.year = year ∧ d.month = month ∧ d.day = day := by
  unfold of?
  constructor
  · intro h
    split at h
    · obtain rfl := Option.some.inj h
      exact ⟨rfl, rfl, rfl⟩
    · cases h
  · rintro ⟨rfl, rfl, rfl⟩
    rw [dif_pos ⟨⟨d.firstYear_le, d.year_le⟩, ⟨d.month_pos, d.month_le⟩, d.day_pos, d.day_le⟩]

/-- The day after a day: in its month, on the first of the next month, or on the first day of the
next year; none after the last day of the calendar. -/
def next? (d : Date) : Option Date :=
  if d.day < daysInMonth d.year d.month then of? d.year d.month (d.day + 1)
  else if d.month < 12 then of? d.year (d.month + 1) 1
  else of? (d.year + 1) 1 1

/-- The day that comes a number of days after a day. -/
def addDays? (d : Date) : Nat → Option Date
  | 0 => some d
  | days + 1 => d.next?.bind (addDays? · days)

theorem dayNumber_next? {d e : Date} (h : d.next? = some e) : e.dayNumber = d.dayNumber + 1 := by
  have hlast := d.day_le
  have hmonth := d.month_le
  have hpos := d.month_pos
  unfold next? at h
  split at h
  · obtain ⟨hyear, hmonth, hday⟩ := of?_eq_some.mp h
    rw [dayNumber, dayNumber, hyear, hmonth, hday]
    omega
  · -- The next day is the first of the month with the next number.
    have hsucc : ∀ e : Date, e.monthNumber = d.monthNumber + 1 → e.day = 1 →
        e.dayNumber = d.dayNumber + 1 := by
      intro e hnumber hday
      have hlength : monthLength d.monthNumber = daysInMonth d.year d.month := by
        rw [monthLength, ← year_eq, ← month_eq]
      rw [dayNumber_eq, dayNumber_eq, hnumber, daysBefore_succ, hday]
      omega
    split at h
    · obtain ⟨hyear, hmonth, hday⟩ := of?_eq_some.mp h
      refine hsucc e ?_ hday
      rw [monthNumber, monthNumber, hyear, hmonth]
      omega
    · obtain ⟨hyear, hmonth, hday⟩ := of?_eq_some.mp h
      refine hsucc e ?_ hday
      rw [monthNumber, monthNumber, hyear, hmonth]
      omega

/-- A day before another one is not the last day. -/
theorem exists_next? {d e : Date} (h : d < e) : ∃ d', d.next? = some d' := by
  have hof : ∀ {year : Int} {month day : Nat}, firstYear ≤ year → year ≤ lastYear → 1 ≤ month →
      month ≤ 12 → 1 ≤ day → day ≤ daysInMonth year month → ∃ d', of? year month day = some d' :=
    fun h₁ h₂ h₃ h₄ h₅ h₆ => ⟨_, dif_pos ⟨⟨h₁, h₂⟩, ⟨h₃, h₄⟩, h₅, h₆⟩⟩
  have hyear := d.firstYear_le
  have hyear' := d.year_le
  have hmonth := d.month_pos
  unfold next?
  split
  · exact hof hyear hyear' hmonth d.month_le (Nat.le_add_left 1 _) ‹_›
  · split
    · exact hof hyear hyear' (Nat.le_add_left 1 _) ‹_› (Nat.le_refl 1) (daysInMonth_pos _ _)
    · -- The day is the last one of its year, so that the other one is in a later year.
      have hlater : d.year < e.year := by
        have hlast := e.month_le
        have hday' := e.day_le
        rcases lt_iff_fields.mp h with hlt | ⟨heq, hlt | ⟨hsame, hday⟩⟩
        · exact hlt
        · omega
        · rw [← heq, ← hsame] at hday'
          omega
      have := e.year_le
      exact hof (by omega) (by omega) (Nat.le_refl 1) (by omega) (Nat.le_refl 1)
        (daysInMonth_pos _ _)

/-- A day is a number of days after another if its number is greater by as much. -/
theorem addDays?_eq_some {days : Nat} {d e : Date} :
    d.addDays? days = some e ↔ e.dayNumber = d.dayNumber + days := by
  induction days generalizing d with
  | zero =>
    rw [addDays?, Option.some.injEq]
    constructor
    · rintro rfl
      exact (Int.add_zero _).symm
    · intro h
      have hsame : e.dayNumber = d.dayNumber := h.trans (Int.add_zero _)
      exact le_antisymm (dayNumber_le_iff.mp hsame.ge) (dayNumber_le_iff.mp hsame.le)
  | succ days ih =>
    simp only [addDays?, Option.bind_eq_some_iff, ih]
    constructor
    · rintro ⟨d', hnext, h⟩
      have := dayNumber_next? hnext
      omega
    · intro h
      have hlt : d < e := lt_of_not_ge fun hge => by
        have := dayNumber_le_iff.mpr hge
        omega
      obtain ⟨d', hnext⟩ := exists_next? hlt
      have := dayNumber_next? hnext
      exact ⟨d', hnext, by omega⟩

/-! ### The same day of a later month -/

/-- The same day a number of months later is in the month with that number, and it is the last day
of the month where the month is shorter. -/
theorem addMonths?_eq_some {d e : Date} {months : Nat} : d.addMonths? months = some e ↔
    e.monthNumber = d.monthNumber + months ∧ e.day = min d.day (monthLength e.monthNumber) := by
  unfold addMonths?
  rw [of?_eq_some]
  constructor
  · rintro ⟨hyear, hmonth, hday⟩
    have hnumber : e.monthNumber = d.monthNumber + months := by
      rw [monthNumber, hyear, hmonth]
      omega
    rw [hnumber, hday]
    exact ⟨rfl, rfl⟩
  · rintro ⟨hnumber, hday⟩
    rw [year_eq, month_eq, hday, hnumber]
    exact ⟨rfl, rfl, rfl⟩

/-- Up to the month of a date there is a same day of each month. -/
theorem exists_addMonths? {d e : Date} {months : Nat}
    (h : d.monthNumber + months ≤ e.monthNumber) : ∃ d', d.addMonths? months = some d' := by
  have hfirst := d.firstYear_le
  have hlast := e.year_le
  have hpos := d.day_pos
  rw [year_eq] at hfirst hlast
  have hlength := daysInMonth_pos ((d.monthNumber + months) / 12)
    (((d.monthNumber + months) % 12).toNat + 1)
  unfold addMonths? of?
  exact ⟨_, dif_pos ⟨⟨by omega, by omega⟩, ⟨by omega, by omega⟩, by omega, Nat.min_le_right _ _⟩⟩

theorem addMonths?_zero (d : Date) : d.addMonths? 0 = some d := by
  have := d.day_le_monthLength
  rw [addMonths?_eq_some]
  omega

/-- More months lead to a later day. -/
theorem addMonths?_lt {d a b : Date} {m n : Nat} (hmn : m < n) (ha : d.addMonths? m = some a)
    (hb : d.addMonths? n = some b) : a < b := by
  obtain ⟨ha, -⟩ := addMonths?_eq_some.mp ha
  obtain ⟨hb, -⟩ := addMonths?_eq_some.mp hb
  rw [lt_iff]
  omega

/-- The same number of months leads from a later day to no earlier one. -/
theorem addMonths?_mono {d e a b : Date} {n : Nat} (hde : d ≤ e) (ha : d.addMonths? n = some a)
    (hb : e.addMonths? n = some b) : a ≤ b := by
  obtain ⟨ha, haday⟩ := addMonths?_eq_some.mp ha
  obtain ⟨hb, hbday⟩ := addMonths?_eq_some.mp hb
  rw [le_iff]
  rcases le_iff.mp hde with hlt | ⟨heq, hday⟩
  · omega
  · have hsame : a.monthNumber = b.monthNumber := by omega
    rw [hsame] at haday
    omega

/-- From the same day of one month to the same day of the next one it is at most 31 days. -/
theorem addMonths?_dayNumber_le {d a b : Date} {n : Nat} (ha : d.addMonths? n = some a)
    (hb : d.addMonths? (n + 1) = some b) : b.dayNumber ≤ a.dayNumber + 31 := by
  obtain ⟨ha, haday⟩ := addMonths?_eq_some.mp ha
  obtain ⟨hb, hbday⟩ := addMonths?_eq_some.mp hb
  have hnext : b.monthNumber = a.monthNumber + 1 := by omega
  have hlength := monthLength_le a.monthNumber
  have hlength' := monthLength_le b.monthNumber
  rw [dayNumber_eq, dayNumber_eq, hnext, daysBefore_succ]
  omega

end PhoneticSearch.Date
