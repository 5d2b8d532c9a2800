import PhoneticSearch.Filter.Participant
import PhoneticSearch.Proofs.Calendar.Age

/-!
# Growing older

Whoever was born earlier, or is asked for at a later date, is older (`Age.between_mono`): there are
no fewer month anniversaries, and where there are as many the last one is no later.  So a condition
that an age is greater than a limit stays met as time goes on, and a condition that it is less,
once it is not met, is never met again; the filters that ask for ages do the same (`ages_monotone`).
-/

namespace PhoneticSearch

namespace Age

/-- Anniversaries of a birth that are not after a date are so as well for an earlier birth and a
later date. -/
theorem Passed.mono {birth birth' date date' : Date} {months : Nat} (hbirth : birth' ≤ birth)
    (hdate : date ≤ date') (h : Passed birth date months) : Passed birth' date' months := by
  have hroom : birth'.monthNumber + months ≤ date.monthNumber := by
    have := Date.monthNumber_le hbirth
    have := h.monthNumber_le
    omega
  obtain ⟨day, hday, hle⟩ := h
  obtain ⟨day', hday'⟩ := Date.exists_addMonths? hroom
  exact ⟨day', hday', (Date.addMonths?_mono hbirth hday' hday).trans (hle.trans hdate)⟩

/-- Ages are greater for earlier births and later dates. -/
theorem between_mono {birth birth' date date' : Date} {age age' : Age} (hbirth : birth' ≤ birth)
    (hdate : date ≤ date') (hage : between birth date = some age)
    (hage' : between birth' date' = some age') : age ≤ age' := by
  have hcounts := between_eq_some_iff.mp hage
  have hcounts' := between_eq_some_iff.mp hage'
  have hmonths : age.totalMonths ≤ age'.totalMonths :=
    hcounts'.greatest.2 (Passed.mono hbirth hdate hcounts.greatest.1)
  rw [le_iff hcounts.months_lt hcounts'.months_lt]
  rcases Nat.lt_or_eq_of_le hmonths with hlt | heq
  · exact .inl hlt
  · -- The last anniversaries are of the same number, so that the days are left to compare.
    obtain ⟨day, hday, hdays⟩ := hcounts.days
    obtain ⟨day', hday', hdays'⟩ := hcounts'.days
    rw [← heq] at hday'
    have hlast := Date.dayNumber_le_iff.mpr (Date.addMonths?_mono hbirth hday' hday)
    have hdates := Date.dayNumber_le_iff.mpr hdate
    rw [Date.addDays?_eq_some] at hdays hdays'
    exact .inr ⟨heq, by omega⟩

end Age

/-! ### Conditions on ages -/

variable {p : Participant} {birth date later : Date}

/-- Someone who is born has an age, and is no younger later on. -/
theorem Participant.exists_ages (hp : p.birth = some birth) (hborn : birth ≤ date)
    (hlater : date ≤ later) : ∃ age age', p.ageAt date = some age ∧ p.ageAt later = some age' ∧
      age ≤ age' := by
  obtain ⟨age, hage, -⟩ := Age.exists_between hborn
  obtain ⟨age', hage', -⟩ := Age.exists_between (hborn.trans hlater)
  refine ⟨age, age', ?_, ?_, Age.between_mono le_rfl hlater hage hage'⟩
  · rw [Participant.ageAt, hp]
    exact hage
  · rw [Participant.ageAt, hp]
    exact hage'

/-- Whether a condition is met by the age of a participant on a date; an age that is not known
meets none. -/
def AgeConstraint.acceptsAt (c : AgeConstraint) (p : Participant) (date : Date) : Bool :=
  (p.ageAt date).any c.accepts

/-- Who is older than a limit stays so. -/
theorem AgeConstraint.acceptsAt_greaterThan {c : AgeConstraint} (hc : c.comparator = .greaterThan)
    (hp : p.birth = some birth) (hborn : birth ≤ date) (hlater : date ≤ later)
    (h : c.acceptsAt p date = true) : c.acceptsAt p later = true := by
  obtain ⟨age, age', hage, hage', hle⟩ := Participant.exists_ages hp hborn hlater
  simp only [acceptsAt, hage, hage', Option.any_some, accepts, hc, Age.less_iff_lt] at h ⊢
  exact h.trans_le hle

/-- Who is no longer younger than a limit never is again. -/
theorem AgeConstraint.acceptsAt_lessThan {c : AgeConstraint} (hc : c.comparator = .lessThan)
    (hp : p.birth = some birth) (hborn : birth ≤ date) (hlater : date ≤ later)
    (h : c.acceptsAt p date = false) : c.acceptsAt p later = false := by
  obtain ⟨age, age', hage, hage', hle⟩ := Participant.exists_ages hp hborn hlater
  simp only [acceptsAt, hage, hage', Option.any_some, accepts, hc, Bool.eq_false_iff, ne_eq,
    Age.less_iff_lt] at h ⊢
  exact fun hlt => h (hle.trans_lt hlt)

/-- A filter accepts an age if every condition does. -/
theorem ParticipantFilter.acceptsAge_iff (f : ParticipantFilter) {date : Date}
    (h : (p.ageAt date).isSome = true) :
    f.acceptsAge p (some date) = true ↔ ∀ c ∈ f.config.ages, c.acceptsAt p date = true := by
  obtain ⟨age, hage⟩ := Option.isSome_iff_exists.mp h
  rw [acceptsAge, Option.bind_some, hage]
  simp only [AgeConstraint.acceptsAt, hage, Option.any_some, Bool.or_eq_true, List.isEmpty_iff,
    List.all_eq_true, or_iff_right_iff_imp]
  intro hnil c hc
  rw [hnil] at hc
  cases hc

/-- **Ages are monotone.**  One birth has no smaller age at a later date, and at one date an earlier
birth has no smaller age than a later one.  So for one speaker a condition that the age is greater
than a limit stays met at every later date, and one that it is less stays unmet.  A filter whose
conditions are all of the first kind goes on accepting the speaker, and a filter in use with an
unmet condition of the second kind goes on rejecting him. -/
theorem ages_monotone :
    (∀ birth d₁ d₂ : Date, birth ≤ d₁ → d₁ ≤ d₂ → ∃ a₁ a₂, Age.between birth d₁ = some a₁ ∧
      Age.between birth d₂ = some a₂ ∧ a₁ ≤ a₂) ∧
    (∀ b₁ b₂ date : Date, b₁ ≤ b₂ → b₂ ≤ date → ∃ a₁ a₂, Age.between b₁ date = some a₁ ∧
      Age.between b₂ date = some a₂ ∧ a₂ ≤ a₁) ∧
    ∀ (p : Participant) (birth d₁ d₂ : Date), p.birth = some birth → birth ≤ d₁ → d₁ ≤ d₂ →
      (∀ c : AgeConstraint, c.comparator = .greaterThan →
        c.acceptsAt p d₁ = true → c.acceptsAt p d₂ = true) ∧
      (∀ c : AgeConstraint, c.comparator = .lessThan →
        c.acceptsAt p d₁ = false → c.acceptsAt p d₂ = false) ∧
      (∀ f : ParticipantFilter, (∀ c ∈ f.config.ages, c.comparator = .greaterThan) →
        f.check (some p) (some d₁) = true → f.check (some p) (some d₂) = true) ∧
      ∀ f : ParticipantFilter, f.inUse = true → ∀ c ∈ f.config.ages, c.comparator = .lessThan →
        c.acceptsAt p d₁ = false → f.check (some p) (some d₂) = false := by
  refine ⟨fun birth d₁ d₂ hborn hlater => ?_, fun b₁ b₂ date hbirths hborn => ?_,
    fun p birth d₁ d₂ hp hborn hlater => ?_⟩
  · obtain ⟨a₁, h₁, -⟩ := Age.exists_between hborn
    obtain ⟨a₂, h₂, -⟩ := Age.exists_between (hborn.trans hlater)
    exact ⟨a₁, a₂, h₁, h₂, Age.between_mono le_rfl hlater h₁ h₂⟩
  · obtain ⟨a₁, h₁, -⟩ := Age.exists_between (hbirths.trans hborn)
    obtain ⟨a₂, h₂, -⟩ := Age.exists_between hborn
    exact ⟨a₁, a₂, h₁, h₂, Age.between_mono hbirths le_rfl h₂ h₁⟩
  · obtain ⟨age₁, age₂, hage₁, hage₂, -⟩ := Participant.exists_ages hp hborn hlater
    have hknown₁ : (p.ageAt d₁).isSome = true := by rw [hage₁]; rfl
    have hknown₂ : (p.ageAt d₂).isSome = true := by rw [hage₂]; rfl
    refine ⟨fun c hc => c.acceptsAt_greaterThan hc hp hborn hlater,
      fun c hc => c.acceptsAt_lessThan hc hp hborn hlater, fun f hall h => ?_,
      fun f huse c hmem hc h => ?_⟩
    · simp only [ParticipantFilter.check, Option.any_some, Bool.or_eq_true, Bool.and_eq_true,
        f.acceptsAge_iff hknown₁, f.acceptsAge_iff hknown₂] at h ⊢
      exact h.imp_right fun ⟨hnames, hages⟩ => ⟨hnames, fun c hc =>
        c.acceptsAt_greaterThan (hall c hc) hp hborn hlater (hages c hc)⟩
    · have hunmet := c.acceptsAt_lessThan hc hp hborn hlater h
      simp only [Bool.eq_false_iff, ne_eq, ParticipantFilter.check, huse, Option.any_some,
        Bool.not_true, Bool.false_or, Bool.and_eq_true, f.acceptsAge_iff hknown₂]
      exact fun haccepts => absurd (haccepts.2 c hmem) (by rw [hunmet]; exact Bool.false_ne_true)

/-- Two children that are born on the last days of January have the same age at the end of February,
and the older one is a day older at the end of March. -/
theorem ages_monotone_monthEnd : ∃ older younger february march,
    Date.of? 2020 1 30 = some older ∧ Date.of? 2020 1 31 = some younger ∧
    Date.of? 2020 2 29 = some february ∧ Date.of? 2020 3 30 = some march ∧
    (older ≤ younger ∧ younger ≤ february ∧ february ≤ march) ∧
    Age.between older february = some ⟨0, 1, 0⟩ ∧ Age.between younger february = some ⟨0, 1, 0⟩ ∧
    (∃ a₁ a₂, Age.between younger february = some a₁ ∧ Age.between younger march = some a₂ ∧
      a₁ ≤ a₂) ∧
    (∃ a₁ a₂, Age.between older march = some a₁ ∧ Age.between younger march = some a₂ ∧ a₂ ≤ a₁) ∧
    let p : Participant := { id := "CHI".toList, birth := some younger }
    let above : AgeConstraint := ⟨.greaterThan, ⟨0, 0, 30⟩⟩
    let below : AgeConstraint := ⟨.lessThan, ⟨0, 1, 0⟩⟩
    (above.acceptsAt p february = true ∧ above.acceptsAt p march = true) ∧
    (below.acceptsAt p february = false ∧ below.acceptsAt p march = false) ∧
    ParticipantFilter.check ⟨[], { ages := [above] }, {}⟩ (some p) (some march) = true ∧
    ParticipantFilter.check ⟨[], { ages := [above, below] }, {}⟩ (some p) (some march) = false := by
  obtain ⟨older, younger, february, march, hdates, hborn, hages⟩ :
      ∃ older younger february march : Date, (Date.of? 2020 1 30 = some older ∧
        Date.of? 2020 1 31 = some younger ∧ Date.of? 2020 2 29 = some february ∧
        Date.of? 2020 3 30 = some march) ∧
      (younger.before older = false ∧ february.before younger = false ∧
        march.before february = false) ∧
      Age.between older february = some ⟨0, 1, 0⟩ ∧
        Age.between younger february = some ⟨0, 1, 0⟩ :=
    ⟨_, _, _, _, ⟨rfl, rfl, rfl, rfl⟩, by decide +kernel⟩
  have hle : ∀ {a b : Date}, b.before a = false → a ≤ b := fun h =>
    not_lt.mp fun hlt => Bool.false_ne_true (h.symm.trans (Date.before_iff_lt.mpr hlt))
  obtain ⟨hbirths, hborn, hlater⟩ := And.imp hle (And.imp hle hle) hborn
  obtain ⟨hdate, hbirth, hspeaker⟩ := ages_monotone
  let p : Participant := { id := "CHI".toList, birth := some younger }
  let above : AgeConstraint := ⟨.greaterThan, ⟨0, 0, 30⟩⟩
  let below : AgeConstraint := ⟨.lessThan, ⟨0, 1, 0⟩⟩
  have habove : above.acceptsAt p february = true := by
    show (Age.between younger february).any above.accepts = true
    rw [hages.2]
    rfl
  have hbelow : below.acceptsAt p february = false := by
    show (Age.between younger february).any below.accepts = false
    rw [hages.2]
    rfl
  have hfilter : ParticipantFilter.check ⟨[], { ages := [above] }, {}⟩ (some p)
      (some february) = true := by
    show (Option.any (fun age => [above].all (·.accepts age))
      (Age.between younger february)) = true
    rw [hages.2]
    rfl
  obtain ⟨hgreater, hless, haccepts, hrejects⟩ := hspeaker p younger february march rfl hborn hlater
  refine ⟨older, younger, february, march, hdates.1, hdates.2.1, hdates.2.2.1, hdates.2.2.2,
    ⟨hbirths, hborn, hlater⟩, hages.1, hages.2, hdate _ _ _ hborn hlater,
    hbirth _ _ _ hbirths (hborn.trans hlater), ⟨habove, hgreater above rfl habove⟩,
    ⟨hbelow, hless below rfl hbelow⟩, haccepts _ (by simp) hfilter, ?_⟩
  exact hrejects ⟨[], { ages := [above, below] }, {}⟩ rfl below (by simp) rfl hbelow

end PhoneticSearch
