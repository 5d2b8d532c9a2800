import Mathlib.Data.List.Pairwise
import PhoneticSearch.Proofs.Span
import PhoneticSearch.Proofs.Transcription.Subsection
import PhoneticSearch.Transcription.Syllable

/-!
# Syllables divide the phones among them

A syllable is a stress mark, if there is one, and the phones behind it
(`syllableElements`).  `Divides` reads a transcription as such stretches with elements
between them that are no phones, and the syllables of a transcription are a way to read
it so (`syllables_divide`).  Order, shape and completeness of the syllables follow from
that reading alone.

The words of a transcription are counted by a rule of their own: a word is a stretch
between two breaks that is not empty, whereas the scan for syllables counts the breaks
that it meets inside a word.  The two scans keep step (`syllablesFrom_inWord`), so that
the number of a syllable's word is the number of the word that it lies in.
-/

namespace PhoneticSearch.Transcription

/-- The elements of a syllable: its stress mark, if it has one, and its phones. -/
def syllableElements (mark : Option Stress) (phones : List Phone) : Transcription :=
  mark.toList.map Element.stress ++ phones.map Element.phone

/-- The stress that a mark gives to the syllable behind it. -/
def markedStress (mark : Option Stress) : SyllableStress := mark.elim .unstressed .ofMark

theorem syllableElements_append (mark : Option Stress) (phones : List Phone) (p : Phone)
    (t : Transcription) :
    syllableElements mark (phones ++ [p]) ++ t = syllableElements mark phones ++ .phone p :: t := by
  simp [syllableElements]

theorem length_syllableElements (mark : Option Stress) (phones : List Phone) :
    (syllableElements mark phones).length = mark.toList.length + phones.length := by
  simp [syllableElements]

/-- How syllables divide the elements of a transcription whose first element has position
`i`: an element outside of them is no phone. -/
inductive Divides : (i : Nat) → Transcription → List Syllable → Prop where
  | nil (i : Nat) : Divides i [] []
  | outside {i : Nat} {e : Element} {t : Transcription} {syllables : List Syllable}
      (he : e.isPhone = false) (h : Divides (i + 1) t syllables) : Divides i (e :: t) syllables
  | syllable {i : Nat} {t : Transcription} {syllables : List Syllable} (mark : Option Stress)
      {phones : List Phone} (word : Nat) (hphones : phones ≠ [])
      (h : Divides (i + (syllableElements mark phones).length) t syllables) :
      Divides i (syllableElements mark phones ++ t)
        (⟨⟨i, i + (syllableElements mark phones).length⟩, markedStress mark, word⟩ :: syllables)

/-! ### What a division says -/

namespace Divides

variable {i : Nat} {t : Transcription} {syllables : List Syllable}

theorem le_start (h : Divides i t syllables) : ∀ s ∈ syllables, i ≤ s.span.start := by
  induction h with
  | nil => intro s hs; cases hs
  | outside _ _ ih => exact fun s hs => Nat.le_of_succ_le (ih s hs)
  | syllable mark word _ _ ih =>
    intro s hs
    rcases List.mem_cons.mp hs with rfl | hs
    · exact Nat.le_refl _
    · exact Nat.le_trans (Nat.le_add_right _ _) (ih s hs)

/-- The syllables stand one behind the other. -/
theorem pairwise (h : Divides i t syllables) :
    syllables.Pairwise (fun a b => a.span.stop ≤ b.span.start) := by
  induction h with
  | nil => exact List.Pairwise.nil
  | outside _ _ ih => exact ih
  | syllable mark word _ h ih => exact List.pairwise_cons.mpr ⟨h.le_start, ih⟩

/-- Every syllable is a stretch of the transcription of the shape of one. -/
theorem shape (h : Divides i t syllables) : ∀ s ∈ syllables,
    ∃ before mark phones after, phones ≠ [] ∧ s.stress = markedStress mark ∧
      t = before ++ syllableElements mark phones ++ after ∧
      s.span = ⟨i + before.length, i + before.length + (syllableElements mark phones).length⟩ := by
  induction h with
  | nil => intro s hs; cases hs
  | @outside i e t syllables _ _ ih =>
    intro s hs
    obtain ⟨before, mark, phones, after, hphones, hstress, rfl, hspan⟩ := ih s hs
    refine ⟨e :: before, mark, phones, after, hphones, hstress, rfl, ?_⟩
    rw [hspan, List.length_cons, Nat.add_right_comm, Nat.add_assoc i]
  | @syllable i t syllables mark first word hfirst _ ih =>
    intro s hs
    rcases List.mem_cons.mp hs with rfl | hs
    · exact ⟨[], mark, first, t, hfirst, rfl, rfl, rfl⟩
    · obtain ⟨before, mark', phones, after, hphones, hstress, rfl, hspan⟩ := ih s hs
      refine ⟨syllableElements mark first ++ before, mark', phones, after, hphones, hstress,
        by simp only [List.append_assoc], ?_⟩
      rw [hspan, List.length_append, Nat.add_assoc i]

/-- Every phone is in one of the syllables. -/
theorem exists_contains (h : Divides i t syllables) : ∀ {k : Nat} {p : Phone},
    t[k]? = some (.phone p) → ∃ s ∈ syllables, s.span.contains (i + k) = true := by
  induction h with
  | nil => intro k p hp; cases hp
  | @outside i e t syllables he _ ih =>
    intro k p hp
    cases k with
    | zero =>
      obtain rfl : e = .phone p := by simpa using hp
      cases he
    | succ k =>
      obtain ⟨s, hs, hin⟩ := ih (by simpa using hp)
      exact ⟨s, hs, by rwa [Nat.add_right_comm] at hin⟩
  | @syllable i t syllables mark phones word _ _ ih =>
    intro k p hp
    rcases Nat.lt_or_ge k (syllableElements mark phones).length with hk | hk
    · refine ⟨_, List.mem_cons_self, Span.mem_iff.mpr ?_⟩
      exact ⟨Nat.le_add_right i k, Nat.add_lt_add_left hk i⟩
    · rw [List.getElem?_append_right hk] at hp
      obtain ⟨s, hs, hin⟩ := ih hp
      refine ⟨s, List.mem_cons_of_mem _ hs, ?_⟩
      rwa [Nat.add_assoc, Nat.add_sub_cancel' hk] at hin

end Divides

/-! ### The scan divides -/

/-- What has been seen of a syllable that has begun, up to the position `i`. -/
structure OpenSyllable.Holds (s : OpenSyllable) (i : Nat) (mark : Option Stress)
    (phones : List Phone) : Prop where
  position : i = s.start + (syllableElements mark phones).length
  stop : phones ≠ [] → s.stop = i
  hasPhone : s.hasPhone = true ↔ phones ≠ []
  stress : s.stress = markedStress mark

theorem OpenSyllable.holds_mark (i : Nat) (mark : Stress) :
    (OpenSyllable.new i (.ofMark mark)).Holds (i + 1) (some mark) [] :=
  { position := rfl, stop := fun h => absurd rfl h, hasPhone := by simp [OpenSyllable.new]
    stress := rfl }

theorem OpenSyllable.holds_phone (i : Nat) (p : Phone) :
    ((OpenSyllable.new i .unstressed).add i p.constituent).Holds (i + 1) none [p] :=
  { position := rfl, stop := fun _ => rfl, hasPhone := by simp [OpenSyllable.add]
    stress := rfl }

theorem OpenSyllable.Holds.add {s : OpenSyllable} {i : Nat} {mark : Option Stress}
    {phones : List Phone} (h : s.Holds i mark phones) (p : Phone) :
    (s.add i p.constituent).Holds (i + 1) mark (phones ++ [p]) :=
  { position := by
      have := h.position
      simp only [OpenSyllable.add, length_syllableElements, List.length_append,
        List.length_singleton] at this ⊢
      omega
    stop := fun _ => rfl
    hasPhone := by simp [OpenSyllable.add]
    stress := h.stress }

/-- A syllable that ends is one of the division, if it has a phone; a stress mark without
phones is outside of all syllables. -/
theorem Divides.close {s : OpenSyllable} {i : Nat} {mark : Option Stress} {phones : List Phone}
    (hs : s.Holds i mark phones) (word : Nat) {t : Transcription} {syllables : List Syllable}
    (h : Divides i t syllables) :
    Divides s.start (syllableElements mark phones ++ t)
      (closeSyllable word (some s) ++ syllables) := by
  have hposition := hs.position
  by_cases hphones : phones = []
  · have hnone : closeSyllable word (some s) = [] := if_neg (by simp [hs.hasPhone, hphones])
    rw [hnone, List.nil_append]
    subst hphones
    cases mark with
    | none =>
      obtain rfl : i = s.start := hposition
      exact h
    | some mark =>
      obtain rfl : i = s.start + 1 := hposition
      exact .outside rfl h
  · have hone : closeSyllable word (some s) =
        [⟨⟨s.start, s.start + (syllableElements mark phones).length⟩, markedStress mark,
          word⟩] := by
      rw [closeSyllable, if_pos (hs.hasPhone.mpr hphones), hs.stop hphones, hs.stress, ← hposition]
    rw [hone]
    exact .syllable mark word hphones (hposition ▸ h)

/-- The scan divides what is left, together with what it holds of a syllable that has
begun. -/
theorem divides_syllablesFrom : ∀ (t : Transcription) (i word : Nat) (inWord : Bool),
    Divides i t (syllablesFrom i word inWord none t) ∧
      ∀ {s : OpenSyllable} {mark : Option Stress} {phones : List Phone}, s.Holds i mark phones →
        Divides s.start (syllableElements mark phones ++ t)
          (syllablesFrom i word inWord (some s) t) := by
  intro t
  induction t with
  | nil =>
    intro i word inWord
    refine ⟨.nil i, fun {s mark phones} hs => ?_⟩
    have hclosed := Divides.close hs word (.nil i)
    rwa [List.append_nil (closeSyllable _ _)] at hclosed
  | cons e t ih =>
    intro i word inWord
    cases e with
    | wordBoundary | pause _ | syllableBoundary =>
      refine ⟨.outside rfl (ih (i + 1) _ _).1, fun hs => ?_⟩
      exact .close hs word (.outside rfl (ih (i + 1) _ _).1)
    | stress mark =>
      have hrest := (ih (i + 1) word true).2 (OpenSyllable.holds_mark i mark)
      exact ⟨hrest, fun hs => .close hs word hrest⟩
    | phone p =>
      have hrest := (ih (i + 1) word true).2 (OpenSyllable.holds_phone i p)
      refine ⟨hrest, fun {s mark phones} hs => ?_⟩
      rw [syllablesFrom]
      split
      · exact Divides.close hs word hrest
      · have hadded := (ih (i + 1) word true).2 (hs.add p)
        rwa [syllableElements_append] at hadded

/-- The syllables of a transcription divide its elements. -/
theorem syllables_divide (t : Transcription) : Divides 0 t t.syllables :=
  (divides_syllablesFrom t 0 0 false).1

/-! ### Syllables and words -/

/-- A word that has begun is the first one that is found. -/
theorem wordSpansFrom_begun : ∀ (t : Transcription) {start i : Nat}, start < i →
    ∃ stop, i ≤ stop ∧ (wordSpansFrom start i t)[0]? = some ⟨start, stop⟩ := by
  intro t
  induction t with
  | nil =>
    intro start i hlt
    exact ⟨i, Nat.le_refl i, by rw [wordSpansFrom, if_pos hlt]; rfl⟩
  | cons e t ih =>
    intro start i hlt
    rw [wordSpansFrom]
    split
    · exact ⟨i, Nat.le_refl i, rfl⟩
    · obtain ⟨stop, hle, hget⟩ := ih (Nat.lt_succ_of_lt hlt)
      exact ⟨stop, Nat.le_of_succ_le hle, hget⟩

/-- Whether a syllable lies in the word with its number, where the words are counted from
`first` on. -/
def LiesInWord (first : Nat) (words : List Span) (s : Syllable) : Prop :=
  ∃ k w, s.word = first + k ∧ words[k]? = some w ∧ w.start ≤ s.span.start ∧ s.span.stop ≤ w.stop

theorem LiesInWord.cons {first : Nat} {words : List Span} {s : Syllable} (w : Span)
    (h : LiesInWord (first + 1) words s) : LiesInWord first (w :: words) s := by
  obtain ⟨k, w', hword, hget, hin⟩ := h
  exact ⟨k + 1, w', by omega, by simpa using hget, hin⟩

/-- Whether the syllable that has begun lies behind the start of the word that has begun,
and in front of a position. -/
def BegunInWord (start i : Nat) (current : Option OpenSyllable) : Prop :=
  ∀ s ∈ current, start < i ∧ start ≤ s.start ∧ s.stop ≤ i

theorem begunInWord_none (start i : Nat) : BegunInWord start i none := by
  intro s hs
  cases hs

theorem begunInWord_some {start i : Nat} {s : OpenSyllable} (hlt : start < i)
    (hstart : start ≤ s.start) (hstop : s.stop ≤ i) : BegunInWord start i (some s) := by
  intro s' hs
  obtain rfl : s = s' := Option.some.inj hs
  exact ⟨hlt, hstart, hstop⟩

/-- A syllable that ends lies in the word that has begun, whatever follows. -/
theorem closeSyllable_inWord {start i : Nat} {current : Option OpenSyllable}
    (hcurrent : BegunInWord start i current) (word : Nat) (t : Transcription) :
    ∀ s ∈ closeSyllable word current, LiesInWord word (wordSpansFrom start i t) s := by
  intro s hs
  cases current with
  | none => cases hs
  | some c =>
    obtain ⟨hlt, hstart, hstop⟩ := hcurrent c rfl
    obtain ⟨stop, hle, hget⟩ := wordSpansFrom_begun t hlt
    rw [closeSyllable] at hs
    split at hs
    · obtain rfl := List.mem_singleton.mp hs
      exact ⟨0, _, rfl, hget, hstart, Nat.le_trans hstop hle⟩
    · cases hs

/-- The two scans keep step: `word` is the number of the words that have ended, and
`inWord` tells whether the word that begins at `start` has an element. -/
theorem syllablesFrom_inWord : ∀ (t : Transcription) (start i word : Nat)
    {inWord : Bool} {current : Option OpenSyllable}, start ≤ i → (inWord = true ↔ start < i) →
    BegunInWord start i current → ∀ s ∈ syllablesFrom i word inWord current t,
      LiesInWord word (wordSpansFrom start i t) s := by
  intro t
  induction t with
  | nil =>
    intro start i word inWord current _ _ hcurrent
    exact closeSyllable_inWord hcurrent word []
  | cons e t ih =>
    intro start i word inWord current hstart hinWord hcurrent s hs
    -- What is closed here, and what is found behind this element.
    have closed : ∀ {later : List Syllable}, s ∈ closeSyllable word current ++ later →
        (s ∈ later → LiesInWord word (wordSpansFrom start i (e :: t)) s) →
        LiesInWord word (wordSpansFrom start i (e :: t)) s := by
      intro later h hlater
      rcases List.mem_append.mp h with h | h
      · exact closeSyllable_inWord hcurrent word (e :: t) s h
      · exact hlater h
    have ended : e.isWordBreak = true →
        s ∈ syllablesFrom (i + 1) (if inWord then word + 1 else word) false none t →
        LiesInWord word (wordSpansFrom start i (e :: t)) s := by
      intro he h
      have hlies := ih (i + 1) (i + 1) _ (Nat.le_refl _) (by simp) (begunInWord_none _ _) s h
      rw [wordSpansFrom, if_pos he]
      by_cases hlt : start < i
      · rw [if_pos (hinWord.mpr hlt)] at hlies
        rw [if_pos hlt]
        exact hlies.cons ⟨start, i⟩
      · rw [if_neg (mt hinWord.mp hlt)] at hlies
        rwa [if_neg hlt]
    have continued : ∀ {current' : Option OpenSyllable}, e.isWordBreak = false →
        BegunInWord start (i + 1) current' → s ∈ syllablesFrom (i + 1) word true current' t →
        LiesInWord word (wordSpansFrom start i (e :: t)) s := by
      intro current' he hcurrent' h
      rw [wordSpansFrom, if_neg (by simp [he])]
      exact ih start (i + 1) word (Nat.le_succ_of_le hstart) (by simp; omega) hcurrent' s h
    have begun : ∀ c, BegunInWord start (i + 1)
        (some ((OpenSyllable.new i .unstressed).add i c)) :=
      fun c => begunInWord_some (Nat.lt_succ_of_le hstart) hstart (Nat.le_refl _)
    cases e with
    | wordBoundary | pause _ => exact closed hs (ended rfl)
    | syllableBoundary => exact closed hs (continued rfl (begunInWord_none _ _))
    | stress mark =>
      exact closed hs
        (continued rfl (begunInWord_some (Nat.lt_succ_of_le hstart) hstart (Nat.le_succ i)))
    | phone p =>
      cases current with
      | none => exact continued rfl (begun p.constituent) hs
      | some c =>
        simp only [syllablesFrom] at hs
        split at hs
        · exact closed hs (continued rfl (begun p.constituent))
        · have hadded : BegunInWord start (i + 1) (some (c.add i p.constituent)) :=
            begunInWord_some (Nat.lt_succ_of_le hstart) (hcurrent c rfl).2.1 (Nat.le_refl _)
          exact continued rfl hadded hs

/-- A syllable lies in the word with its number. -/
theorem syllables_inWord (t : Transcription) : ∀ s ∈ t.syllables,
    ∃ w, t.wordSpans[s.word]? = some w ∧ w.start ≤ s.span.start ∧ s.span.stop ≤ w.stop := by
  intro s hs
  obtain ⟨k, w, hword, hget, hin⟩ := syllablesFrom_inWord t 0 0 0 (Nat.le_refl 0)
    (by simp) (begunInWord_none 0 0) s hs
  rw [Nat.zero_add] at hword
  exact ⟨w, hword ▸ hget, hin⟩

/-- The words from a position on start there or later. -/
theorem le_start_of_mem_wordSpansFrom : ∀ (t : Transcription) {start i : Nat}, start ≤ i →
    ∀ w ∈ wordSpansFrom start i t, start ≤ w.start := by
  have hbegun : ∀ {start i : Nat},
      ∀ w ∈ (if start < i then [(⟨start, i⟩ : Span)] else []), start ≤ w.start := by
    intro start i w hw
    split at hw
    · obtain rfl := List.mem_singleton.mp hw
      exact Nat.le_refl start
    · cases hw
  intro t
  induction t with
  | nil => exact fun _ => hbegun
  | cons e t ih =>
    intro start i hle w hw
    rw [wordSpansFrom] at hw
    split at hw
    · rcases List.mem_append.mp hw with hw | hw
      · exact hbegun w hw
      · exact Nat.le_trans (Nat.le_succ_of_le hle) (ih (Nat.le_refl _) w hw)
    · exact ih (Nat.le_succ_of_le hle) w hw

theorem wordSpansFrom_apart : ∀ (t : Transcription) {start i : Nat}, start ≤ i →
    (wordSpansFrom start i t).Pairwise fun v w => v.stop < w.start := by
  intro t
  induction t with
  | nil =>
    intro start i _
    rw [wordSpansFrom]
    split
    · exact List.pairwise_singleton _ _
    · exact .nil
  | cons e t ih =>
    intro start i hle
    rw [wordSpansFrom]
    split
    · refine List.pairwise_append.mpr ⟨?_, ih (Nat.le_refl _), fun v hv w hw => ?_⟩
      · split
        · exact List.pairwise_singleton _ _
        · exact .nil
      · split at hv
        · obtain rfl := List.mem_singleton.mp hv
          exact le_start_of_mem_wordSpansFrom t (Nat.le_refl _) w hw
        · cases hv
    · exact ih (Nat.le_succ_of_le hle)

/-- There is an element between any two words. -/
theorem wordSpans_apart (t : Transcription) :
    t.wordSpans.Pairwise fun v w => v.stop < w.start :=
  wordSpansFrom_apart t (Nat.le_refl 0)

theorem syllables_nonempty (t : Transcription) : ∀ s ∈ t.syllables, s.span.start < s.span.stop := by
  intro s hs
  obtain ⟨before, mark, phones, after, hphones, -, -, hspan⟩ := t.syllables_divide.shape s hs
  have hpos := List.length_pos_iff.mpr hphones
  have hlength := length_syllableElements mark phones
  rw [hspan]
  exact Nat.lt_add_of_pos_right (by omega)

/-- Syllables stand one behind the other, and there is an element between syllables of
different words. -/
theorem syllables_apart (t : Transcription) : t.syllables.Pairwise fun a b =>
    a.span.stop ≤ b.span.start ∧ (a.word ≠ b.word → a.span.stop < b.span.start) := by
  have hbefore : ∀ a ∈ t.syllables, ∀ b ∈ t.syllables, a.word < b.word →
      a.span.stop < b.span.start := by
    intro a ha b hb hlt
    obtain ⟨v, hv, -, hstop⟩ := t.syllables_inWord a ha
    obtain ⟨w, hw, hstart, -⟩ := t.syllables_inWord b hb
    exact Nat.lt_of_le_of_lt hstop
      (Nat.lt_of_lt_of_le (rel_of_getElem? t.wordSpans_apart hlt hv hw) hstart)
  refine t.syllables_divide.pairwise.imp_of_mem fun {a b} ha hb hle => ⟨hle, fun hne => ?_⟩
  rcases Nat.lt_or_gt_of_ne hne with hlt | hlt
  · exact hbefore a ha b hb hlt
  · have hbehind := hbefore b hb a ha hlt
    have hapos := t.syllables_nonempty a ha
    have hbpos := t.syllables_nonempty b hb
    omega

/-! ### The division -/

/-- Of syllables that stand one behind the other, only one has a position. -/
theorem eq_of_contains {syllables : List Syllable}
    (h : syllables.Pairwise (fun a b => a.span.stop ≤ b.span.start)) {i : Nat} :
    ∀ a ∈ syllables, ∀ b ∈ syllables, a.span.contains i = true → b.span.contains i = true →
      a = b := by
  refine List.Pairwise.forall_of_forall_of_flip (fun _ _ _ _ => rfl) (h.imp ?_) (h.imp ?_)
  · intro a b hab ha hb
    rw [Span.mem_iff] at ha hb
    omega
  · intro a b hab hb ha
    rw [Span.mem_iff] at ha hb
    omega

/-- The syllables divide the phones: they stand in order one behind the other, each is a
stress mark, if it has one, with phones behind it and is stressed by that mark, every phone
is in exactly one of them, and each lies in the word with its number. -/
theorem syllables_partition (t : Transcription) :
    t.syllables.Pairwise (fun a b => a.span.stop ≤ b.span.start) ∧
    (∀ s ∈ t.syllables, s.span.start < s.span.stop ∧ s.span.stop ≤ t.length ∧
      ∃ mark phones, t.subsection s.span = syllableElements mark phones ∧ phones ≠ [] ∧
        s.stress = markedStress mark) ∧
    (∀ i p, t.phoneAt? i = some p → ∃! s, s ∈ t.syllables ∧ s.span.contains i = true) ∧
    (∀ s ∈ t.syllables, ∃ w, t.wordSpans[s.word]? = some w ∧
      w.start ≤ s.span.start ∧ s.span.stop ≤ w.stop) := by
  have hdivides := t.syllables_divide
  refine ⟨hdivides.pairwise, ?_, ?_, t.syllables_inWord⟩
  · intro s hs
    obtain ⟨before, mark, phones, after, hphones, hstress, ht, hspan⟩ := hdivides.shape s hs
    rw [Nat.zero_add] at hspan
    have hlength := length_syllableElements mark phones
    have hpos := List.length_pos_iff.mpr hphones
    refine ⟨?_, ?_, mark, phones, ?_, hphones, hstress⟩
    · rw [hspan]
      show before.length < before.length + _
      omega
    · rw [hspan, ht, List.length_append, List.length_append]
      exact Nat.le_add_right _ _
    · rw [hspan, ht, subsection_middle]
  · intro i p hp
    obtain ⟨s, hs, hin⟩ := hdivides.exists_contains (phoneAt?_eq_some.mp hp)
    rw [Nat.zero_add] at hin
    refine ⟨s, ⟨hs, hin⟩, fun s' ⟨hs', hin'⟩ => ?_⟩
    exact eq_of_contains hdivides.pairwise s' hs' s hs hin' hin

end PhoneticSearch.Transcription
