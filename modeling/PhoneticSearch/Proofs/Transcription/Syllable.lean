import PhoneticSearch.Transcription.Syllable

/-!
# Where syllables lie

A scan for syllables looks at the elements from left to right, and a syllable that has
begun lies in front of the element that is looked at; so all syllables lie inside the
transcription (`syllables_within`).
-/

namespace PhoneticSearch.Transcription

/-- Whether the two ends of a span are no further than a position. -/
def EndsWithin (size : Nat) (s : Span) : Prop := s.start ≤ size ∧ s.stop ≤ size

theorem EndsWithin.mono {size size' : Nat} {s : Span} (h : EndsWithin size s)
    (hle : size ≤ size') : EndsWithin size' s :=
  ⟨Nat.le_trans h.1 hle, Nat.le_trans h.2 hle⟩

/-- Whether the syllable that has begun lies in front of a position. -/
def BegunBefore (i : Nat) (current : Option OpenSyllable) : Prop :=
  ∀ s ∈ current, EndsWithin i ⟨s.start, s.stop⟩

theorem begunBefore_none (i : Nat) : BegunBefore i none := by
  intro s hs
  cases hs

theorem begunBefore_some {i : Nat} {s : OpenSyllable} (hstart : s.start ≤ i) (hstop : s.stop ≤ i) :
    BegunBefore i (some s) := by
  intro s' hs
  obtain rfl : s = s' := Option.some.inj hs
  exact ⟨hstart, hstop⟩

theorem closeSyllable_within {i word : Nat} {current : Option OpenSyllable}
    (hcurrent : BegunBefore i current) :
    ∀ s ∈ closeSyllable word current, EndsWithin i s.span := by
  intro s hs
  cases current with
  | none => cases hs
  | some c =>
    rw [closeSyllable] at hs
    split at hs
    · obtain rfl := List.mem_singleton.mp hs
      exact hcurrent c rfl
    · cases hs

theorem syllablesFrom_within : ∀ (t : Transcription) (i word : Nat) (inWord : Bool)
    (current : Option OpenSyllable), BegunBefore i current →
    ∀ s ∈ syllablesFrom i word inWord current t, EndsWithin (i + t.length) s.span := by
  intro t
  induction t with
  | nil =>
    intro i word inWord current hcurrent s hs
    exact closeSyllable_within hcurrent s hs
  | cons e t ih =>
    intro i word inWord current hcurrent s hs
    have hlength : i + (e :: t).length = i + 1 + t.length := by
      rw [List.length_cons]
      omega
    rw [hlength]
    -- What is closed here, and what is found from the next element on.
    have closed : ∀ {later : List Syllable}, s ∈ closeSyllable word current ++ later →
        (s ∈ later → EndsWithin (i + 1 + t.length) s.span) →
        EndsWithin (i + 1 + t.length) s.span := by
      intro later h hlater
      rcases List.mem_append.mp h with h | h
      · exact (closeSyllable_within hcurrent s h).mono (by omega)
      · exact hlater h
    have begun : ∀ c, BegunBefore (i + 1) (some ((OpenSyllable.new i .unstressed).add i c)) :=
      fun c => begunBefore_some (Nat.le_succ i) (Nat.le_refl _)
    cases e with
    | wordBoundary | pause _ | syllableBoundary =>
      exact closed hs fun h => ih _ _ _ _ (begunBefore_none _) s h
    | stress mark =>
      exact closed hs fun h =>
        ih _ _ _ _ (begunBefore_some (Nat.le_succ i) (Nat.le_succ i)) s h
    | phone p =>
      cases current with
      | none => exact ih _ _ _ _ (begun p.constituent) s hs
      | some c =>
        simp only [syllablesFrom] at hs
        split at hs
        · exact closed hs fun h => ih _ _ _ _ (begun p.constituent) s h
        · have hadded : BegunBefore (i + 1) (some (c.add i p.constituent)) :=
            begunBefore_some (Nat.le_succ_of_le (hcurrent c rfl).1) (Nat.le_refl _)
          exact ih _ _ _ _ hadded s hs

/-- The syllables of a transcription lie inside it. -/
theorem syllables_within (t : Transcription) :
    ∀ s ∈ t.syllables, EndsWithin t.length s.span := by
  intro s hs
  have h := syllablesFrom_within t 0 0 false none (begunBefore_none 0) s hs
  rwa [Nat.zero_add] at h

end PhoneticSearch.Transcription
