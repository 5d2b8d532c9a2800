import PhoneticSearch.Proofs.Transcription.Division
import PhoneticSearch.Proofs.Transcription.Lettered
import PhoneticSearch.Proofs.Transcription.Syllable
import PhoneticSearch.Proofs.Transcription.Words

/-!
# Syllables word by word

A break closes the syllable that has begun, and the scan starts anew behind it, with nothing
carried over but the numbers of elements and words that it has passed
(`syllablesFrom_break`).  So the syllables of a transcription are those of its words, moved to
where the words start (`syllables_words`), and what is read off the syllables can be read off
word by word: the stress pattern (`stressPattern_words`) and the syllabified text
(`syllabified_words`).
-/

namespace PhoneticSearch

/-- A syllable moved behind so many elements and words. -/
def Syllable.moved (s : Syllable) (distance words : Nat) : Syllable :=
  { s with span := s.span.shift distance, word := s.word + words }

namespace Transcription

/-! ### The scan behind a break -/

/-- A syllable that has begun, moved behind so many elements. -/
def OpenSyllable.moved (s : OpenSyllable) (distance : Nat) : OpenSyllable :=
  { s with start := s.start + distance, stop := s.stop + distance }

theorem OpenSyllable.add_moved (s : OpenSyllable) (i distance : Nat) (c : Constituent) :
    (s.moved distance).add (i + distance) c = (s.add i c).moved distance := by
  simp only [add, moved, Nat.add_right_comm]

theorem closeSyllable_moved (current : Option OpenSyllable) (word distance words : Nat) :
    closeSyllable (word + words) (current.map (·.moved distance)) =
      (closeSyllable word current).map (·.moved distance words) := by
  cases current with
  | none => rfl
  | some s =>
    by_cases h : s.hasPhone = true
    · simp [closeSyllable, OpenSyllable.moved, Syllable.moved, Span.shift, h]
    · simp [closeSyllable, OpenSyllable.moved, h]

/-- Behind other elements and words the scan finds the same syllables, moved. -/
theorem syllablesFrom_moved (distance words : Nat) (t : Transcription) :
    ∀ (i word : Nat) (inWord : Bool) (current : Option OpenSyllable),
      syllablesFrom (i + distance) (word + words) inWord (current.map (·.moved distance)) t =
        (syllablesFrom i word inWord current t).map (·.moved distance words) := by
  induction t with
  | nil => exact fun i word _ current => closeSyllable_moved current word distance words
  | cons e t ih =>
    intro i word inWord current
    have hnext : i + distance + 1 = i + 1 + distance := Nat.add_right_comm i distance 1
    have hword : (if inWord then word + words + 1 else word + words) =
        (if inWord then word + 1 else word) + words := by
      split
      · exact Nat.add_right_comm word words 1
      · rfl
    cases e with
    | wordBoundary | pause _ =>
      rw [syllablesFrom, syllablesFrom, List.map_append, closeSyllable_moved, hnext, hword]
      exact congrArg _ (ih (i + 1) _ false none)
    | syllableBoundary =>
      rw [syllablesFrom, syllablesFrom, List.map_append, closeSyllable_moved, hnext]
      exact congrArg _ (ih (i + 1) word true none)
    | stress mark =>
      rw [syllablesFrom, syllablesFrom, List.map_append, closeSyllable_moved, hnext]
      exact congrArg _ (ih (i + 1) word true (some (.new i (.ofMark mark))))
    | phone p =>
      have hbegun := ih (i + 1) word true
        (some ((OpenSyllable.new i .unstressed).add i p.constituent))
      rw [Option.map_some, ← OpenSyllable.add_moved, ← hnext] at hbegun
      cases current with
      | none => exact hbegun
      | some s =>
        have hadded := ih (i + 1) word true (some (s.add i p.constituent))
        rw [Option.map_some, ← OpenSyllable.add_moved, ← hnext] at hadded
        have hclosed := closeSyllable_moved (some s) word distance words
        rw [Option.map_some] at hclosed ⊢
        rw [syllablesFrom, syllablesFrom]
        by_cases hends : s.endsBefore p.constituent = true
        · rw [if_pos hends, if_pos (show (s.moved distance).endsBefore _ = true from hends),
            List.map_append, hclosed]
          exact congrArg _ hbegun
        · rw [if_neg hends, if_neg (show ¬ (s.moved distance).endsBefore _ = true from hends)]
          exact hadded

/-- A break closes the syllable that has begun, and the scan goes on without one, behind one more
word if there was one. -/
theorem syllablesFrom_break {word : Transcription} (h : Unbroken word) {e : Element}
    (he : e.isWordBreak = true) (rest : Transcription) :
    ∀ (i n : Nat) (inWord : Bool) (current : Option OpenSyllable),
      syllablesFrom i n inWord current (word ++ e :: rest) =
        syllablesFrom i n inWord current word ++
          syllablesFrom (i + word.length + 1) (if inWord || !word.isEmpty then n + 1 else n) false
            none rest := by
  induction word with
  | nil =>
    intro i n inWord current
    rw [List.nil_append, List.isEmpty_nil, Bool.not_true, Bool.or_false]
    cases e with
    | wordBoundary | pause _ => rfl
    | phone _ | stress _ | syllableBoundary => cases he
  | cons x word ih =>
    intro i n inWord current
    obtain ⟨hx, hword⟩ := List.forall_mem_cons.mp h
    have hnext : ∀ current' : Option OpenSyllable,
        syllablesFrom (i + 1) n true current' (word ++ e :: rest) =
          syllablesFrom (i + 1) n true current' word ++
            syllablesFrom (i + (x :: word).length + 1)
              (if inWord || !(x :: word).isEmpty then n + 1 else n) false none rest := by
      intro current'
      rw [ih hword, List.length_cons, Nat.add_right_comm i 1, ← Nat.add_assoc,
        List.isEmpty_cons, Bool.not_false, Bool.or_true, Bool.true_or]
    rw [List.cons_append]
    cases x with
    | wordBoundary | pause _ => cases hx
    | syllableBoundary | stress _ =>
      rw [syllablesFrom, syllablesFrom, hnext, List.append_assoc]
    | phone p =>
      cases current with
      | none => rw [syllablesFrom, syllablesFrom, hnext]
      | some s =>
        rw [syllablesFrom, syllablesFrom]
        split
        · rw [hnext, List.append_assoc]
        · rw [hnext]

/-- The syllables of the word in front and of what is behind the break. -/
theorem syllables_break {word : Transcription} (h : Unbroken word) {e : Element}
    (he : e.isWordBreak = true) (rest : Transcription) :
    syllables (word ++ e :: rest) = word.syllables ++
      rest.syllables.map (·.moved (word.length + 1) (if word.isEmpty then 0 else 1)) := by
  have hmoved := syllablesFrom_moved (word.length + 1) (if word.isEmpty then 0 else 1) rest 0 0
    false none
  have hword : (if false || !word.isEmpty then 0 + 1 else 0) =
      0 + if word.isEmpty then 0 else 1 := by
    cases word <;> rfl
  rw [syllables, syllablesFrom_break h he, hword, Nat.zero_add]
  rw [Nat.zero_add] at hmoved
  exact congrArg _ hmoved

/-- The spans and stresses of the syllables of a part that starts at a position. -/
def placedSyllables (start : Nat) (part : Transcription) : List (Span × SyllableStress) :=
  part.syllables.map fun s => (s.span.shift start, s.stress)

theorem placedSyllables_zero (t : Transcription) :
    placedSyllables 0 t = t.syllables.map fun s => (s.span, s.stress) := rfl

theorem map_shift_placedSyllables (start distance : Nat) (part : Transcription) :
    (placedSyllables start part).map (fun x => (x.1.shift distance, x.2)) =
      placedSyllables (start + distance) part := by
  rw [placedSyllables, List.map_map]
  refine List.map_congr_left fun s _ => ?_
  simp only [Function.comp_apply, Span.shift, Nat.add_assoc]

theorem flatten_placedSyllables_wholeWord (word : Transcription) :
    ((wholeWord word).map fun w => placedSyllables w.start word).flatten =
      placedSyllables 0 word := by
  cases word with
  | nil => rfl
  | cons e word => exact List.append_nil _

/-- The syllables of a transcription are those of its words, at the places that they have in
it. -/
theorem syllables_words (t : Transcription) :
    placedSyllables 0 t = t.wordSpans.flatMap fun w => placedSyllables w.start (t.subsection w) := by
  rw [List.flatMap_def]
  induction t using word_induction with
  | last word hword =>
    rw [map_wordSpans_unbroken (fun w u => placedSyllables w.start u) hword,
      flatten_placedSyllables_wholeWord]
  | step word e rest hword he ih =>
    have hrest : placedSyllables (word.length + 1) rest =
        (rest.wordSpans.map fun w =>
          placedSyllables (w.start + (word.length + 1)) (rest.subsection w)).flatten := by
      rw [← Nat.zero_add (word.length + 1), ← map_shift_placedSyllables, ih, List.map_flatten,
        List.map_map, Nat.zero_add]
      refine congrArg List.flatten (List.map_congr_left fun w _ => ?_)
      exact map_shift_placedSyllables w.start (word.length + 1) (rest.subsection w)
    rw [map_wordSpans_break (fun w u => placedSyllables w.start u) hword he, List.flatten_append,
      flatten_placedSyllables_wholeWord, placedSyllables_zero, syllables_break hword he,
      List.map_append, List.map_map]
    exact congrArg _ hrest

/-! ### The stress pattern -/

/-- The stress symbols of some syllables. -/
def stressPatternOf : List Syllable → Text
  | [] => []
  | s :: later => s.stress.symbol :: stressPatternAfter s.word later

theorem stressPattern_eq (t : Transcription) : t.stressPattern = stressPatternOf t.syllables := by
  unfold stressPattern
  cases t.syllables <;> rfl

theorem stressPatternAfter_moved (distance words : Nat) (syllables : List Syllable) :
    ∀ word, stressPatternAfter (word + words) (syllables.map (·.moved distance words)) =
      stressPatternAfter word syllables := by
  induction syllables with
  | nil => exact fun _ => rfl
  | cons s syllables ih =>
    intro word
    have hsame : (s.word + words = word + words) ↔ s.word = word := Nat.add_right_cancel_iff
    rw [List.map_cons, stressPatternAfter, stressPatternAfter]
    simp only [Syllable.moved, hsame]
    exact congrArg _ (congrArg _ (ih s.word))

theorem stressPatternOf_moved (distance words : Nat) (syllables : List Syllable) :
    stressPatternOf (syllables.map (·.moved distance words)) = stressPatternOf syllables := by
  cases syllables with
  | nil => rfl
  | cons s syllables =>
    exact congrArg (s.stress.symbol :: ·) (stressPatternAfter_moved distance words syllables s.word)

theorem stressPatternAfter_append {later : List Syllable} (hlater : later ≠ [])
    (syllables : List Syllable) : ∀ word, (∀ s' ∈ later, word < s'.word) →
    (∀ s ∈ syllables, ∀ s' ∈ later, s.word < s'.word) →
      stressPatternAfter word (syllables ++ later) =
        stressPatternAfter word syllables ++ ' ' :: stressPatternOf later := by
  induction syllables with
  | nil =>
    intro word hword _
    cases later with
    | nil => exact absurd rfl hlater
    | cons s later =>
      have hne : s.word ≠ word := Nat.ne_of_gt (hword s List.mem_cons_self)
      rw [List.nil_append, stressPatternAfter, stressPatternAfter, if_neg hne]
      rfl
  | cons s syllables ih =>
    intro word _ hbefore
    obtain ⟨hs, hsyllables⟩ := List.forall_mem_cons.mp hbefore
    rw [List.cons_append, stressPatternAfter, stressPatternAfter, ih s.word hs hsyllables]
    rfl

/-- A space stands between the syllables of earlier words and those of later ones. -/
theorem stressPatternOf_append {syllables later : List Syllable} (hsyllables : syllables ≠ [])
    (hlater : later ≠ []) (hbefore : ∀ s ∈ syllables, ∀ s' ∈ later, s.word < s'.word) :
    stressPatternOf (syllables ++ later) =
      stressPatternOf syllables ++ ' ' :: stressPatternOf later := by
  cases syllables with
  | nil => exact absurd rfl hsyllables
  | cons s syllables =>
    obtain ⟨hs, hrest⟩ := List.forall_mem_cons.mp hbefore
    exact congrArg _ (stressPatternAfter_append hlater syllables s.word hs hrest)

theorem stressPatternOf_eq_nil {syllables : List Syllable} :
    stressPatternOf syllables = [] ↔ syllables = [] := by
  cases syllables with
  | nil => exact iff_of_true rfl rfl
  | cons s syllables => exact iff_of_false (List.cons_ne_nil _ _) (List.cons_ne_nil _ _)

/-- The syllables of a word by itself belong to word 0. -/
theorem word_of_unbroken {word : Transcription} (h : Unbroken word) :
    ∀ s ∈ word.syllables, s.word = 0 ∧ word.isEmpty = false := by
  intro s hs
  obtain ⟨w, hw, -⟩ := word.syllables_inWord s hs
  rw [wordSpans_unbroken h] at hw
  cases word with
  | nil => cases hw
  | cons e word => exact ⟨Nat.lt_one_iff.mp (List.getElem?_eq_some_iff.mp hw).1, rfl⟩

/-- The stress patterns of the word in front and of what is behind the break stand apart by a
space, if there are both. -/
theorem stressPattern_break {word : Transcription} (h : Unbroken word) {e : Element}
    (he : e.isWordBreak = true) (rest : Transcription) :
    stressPattern (word ++ e :: rest) =
      if word.stressPattern = [] then rest.stressPattern
      else if rest.stressPattern = [] then word.stressPattern
      else word.stressPattern ++ ' ' :: rest.stressPattern := by
  simp only [stressPattern_eq, syllables_break h he, stressPatternOf_eq_nil]
  by_cases hword : word.syllables = []
  · rw [if_pos hword, hword, List.nil_append, stressPatternOf_moved]
  · rw [if_neg hword]
    by_cases hrest : rest.syllables = []
    · rw [if_pos hrest, hrest, List.map_nil, List.append_nil]
    · rw [if_neg hrest, stressPatternOf_append hword (mt List.map_eq_nil_iff.mp hrest),
        stressPatternOf_moved]
      intro s hs s' hs'
      obtain ⟨hzero, hnonempty⟩ := word_of_unbroken h s hs
      obtain ⟨r, -, rfl⟩ := List.mem_map.mp hs'
      rw [hzero, hnonempty]
      exact Nat.succ_pos r.word

/-- The texts that are not empty, with spaces between them. -/
def joinFilled (texts : List Text) : Text := Text.join [' '] (texts.filter (!·.isEmpty))

theorem joinFilled_cons (text : Text) (texts : List Text) :
    joinFilled (text :: texts) =
      if text = [] then joinFilled texts
      else if joinFilled texts = [] then text
      else text ++ ' ' :: joinFilled texts := by
  cases text with
  | nil => rfl
  | cons c text =>
    rw [if_neg (List.cons_ne_nil c text)]
    unfold joinFilled
    rw [List.filter_cons_of_pos rfl]
    cases hfilled : texts.filter (!·.isEmpty) with
    | nil => rfl
    | cons first filled =>
      have hfirst : first ≠ [] := by
        have hmem : first ∈ texts.filter (!·.isEmpty) := hfilled ▸ List.mem_cons_self
        simpa using (List.mem_filter.mp hmem).2
      have hjoin : Text.join [' '] (first :: filled) ≠ [] := by
        cases filled with
        | nil => exact hfirst
        | cons _ _ => simp [Text.join, hfirst]
      rw [if_neg hjoin, Text.join]
      · exact List.append_assoc _ _ _
      · exact List.cons_ne_nil _ _

/-- The stress pattern of a transcription is made of those of its words. -/
theorem stressPattern_words (t : Transcription) :
    t.stressPattern = joinFilled (t.wordSpans.map fun w => (t.subsection w).stressPattern) := by
  induction t using word_induction with
  | last word hword =>
    rw [map_wordSpans_unbroken (fun _ u => u.stressPattern) hword]
    cases word with
    | nil => rfl
    | cons e word =>
      show _ = joinFilled [_]
      rw [joinFilled_cons]
      split
      · assumption
      · rfl
  | step word e rest hword he ih =>
    rw [map_wordSpans_break (fun _ u => u.stressPattern) hword he, stressPattern_break hword he, ih]
    cases word with
    | nil => rfl
    | cons x word => exact (joinFilled_cons _ _).symm

/-! ### The syllabified text -/

section Break

variable {word rest : Transcription} {e : Element}

theorem isNucleusAt_length (t : Transcription) : t.isNucleusAt t.length = false := by
  unfold isNucleusAt phoneAt?
  rw [List.getElem?_eq_none (Nat.le_refl _)]
  rfl

theorem isNucleusAt_front (he : e.isWordBreak = true) {i : Nat} (hi : i ≤ word.length) :
    isNucleusAt (word ++ e :: rest) i = isNucleusAt word i := by
  rcases Nat.lt_or_eq_of_le hi with hlt | rfl
  · rw [isNucleusAt, isNucleusAt, phoneAt?, phoneAt?, List.getElem?_append_left hlt]
  · rw [isNucleusAt_length, isNucleusAt, phoneAt?, List.getElem?_append_right (Nat.le_refl _),
      Nat.sub_self, List.getElem?_cons_zero]
    cases e with
    | wordBoundary | pause _ => rfl
    | phone _ | stress _ | syllableBoundary => cases he

theorem isNucleusAt_behind (i : Nat) :
    isNucleusAt (word ++ e :: rest) (word.length + 1 + i) = isNucleusAt rest i := by
  unfold isNucleusAt phoneAt?
  rw [Nat.add_assoc, List.getElem?_append_right (Nat.le_add_right _ _), Nat.add_sub_cancel_left,
    Nat.add_comm 1, List.getElem?_cons_succ]

/-- No diphthong reaches beyond a word. -/
theorem isDiphthongAt_front (h : Unbroken word) (he : e.isWordBreak = true) {i : Nat}
    (hi : i ≤ word.length) :
    isDiphthongAt (word ++ e :: rest) (syllables (word ++ e :: rest)) i =
      isDiphthongAt word word.syllables i := by
  unfold isDiphthongAt
  rw [isNucleusAt_front he hi]
  rcases Nat.lt_or_eq_of_le hi with hlt | rfl
  · -- The syllables behind the break do not contain the place.
    have hnone : ((rest.syllables.map (·.moved (word.length + 1) (if word.isEmpty then 0 else 1))).any
        fun s => s.span.contains i && s.span.contains (i + 1)) = false := by
      rw [List.any_map, List.any_eq_false]
      intro s _
      show ¬ ((s.span.shift (word.length + 1)).contains i && _) = true
      rw [Span.contains_shift_of_lt s.span (Nat.lt_succ_of_lt hlt), Bool.false_and]
      exact Bool.false_ne_true
    rw [isNucleusAt_front he hlt, syllables_break h he, List.any_append, hnone, Bool.or_false]
  · simp only [isNucleusAt_length, Bool.false_and]

theorem isDiphthongAt_behind (h : Unbroken word) (he : e.isWordBreak = true) (i : Nat) :
    isDiphthongAt (word ++ e :: rest) (syllables (word ++ e :: rest)) (word.length + 1 + i) =
      isDiphthongAt rest rest.syllables i := by
  have hnone : (word.syllables.any fun s => s.span.contains (word.length + 1 + i) &&
      s.span.contains (word.length + 1 + i + 1)) = false := by
    rw [List.any_eq_false]
    intro s hs
    have hstop := (word.syllables_within s hs).2
    simp only [Span.contains, Bool.and_eq_true, decide_eq_true_eq]
    omega
  have hmoved : ∀ (s : Span) (j : Nat),
      (s.shift (word.length + 1)).contains (word.length + 1 + j) = s.contains j := by
    intro s j
    rw [Nat.add_comm _ j, Span.contains_shift]
  unfold isDiphthongAt
  rw [isNucleusAt_behind, Nat.add_assoc _ i, isNucleusAt_behind, syllables_break h he,
    List.any_append, ← Nat.add_assoc _ i, hnone, Bool.false_or, List.any_map]
  refine congrArg _ (congrArg (List.any rest.syllables) (funext fun s => ?_))
  rw [Function.comp_apply, Nat.add_assoc _ i]
  exact congrArg₂ (· && ·) (hmoved s.span i) (hmoved s.span (i + 1))

theorem letterAt_front (h : Unbroken word) (he : e.isWordBreak = true) {i : Nat}
    (hi : i ≤ word.length) (p : Phone) :
    letterAt (word ++ e :: rest) (syllables (word ++ e :: rest)) i p =
      letterAt word word.syllables i p := by
  unfold letterAt
  rw [isDiphthongAt_front h he hi, isDiphthongAt_front h he (Nat.le_trans (Nat.sub_le i 1) hi)]

theorem letterAt_behind (h : Unbroken word) (he : e.isWordBreak = true) (i : Nat) (p : Phone) :
    letterAt (word ++ e :: rest) (syllables (word ++ e :: rest)) (word.length + 1 + i) p =
      letterAt rest rest.syllables i p := by
  have hbefore : (0 < word.length + 1 + i && isDiphthongAt (word ++ e :: rest)
      (syllables (word ++ e :: rest)) (word.length + 1 + i - 1) : Bool) =
        (0 < i && isDiphthongAt rest rest.syllables (i - 1) : Bool) := by
    cases i with
    | zero =>
      rw [Nat.add_zero, Nat.add_sub_cancel, isDiphthongAt_front h he (Nat.le_refl _),
        isDiphthongAt, isNucleusAt_length]
      simp
    | succ i =>
      rw [← Nat.add_assoc, Nat.add_sub_cancel, isDiphthongAt_behind h he]
      simp
  unfold letterAt
  rw [isDiphthongAt_behind h he, hbefore]

/-- The break stands between the syllabified texts of what is in front of it and behind it. -/
theorem syllabified_break (h : Unbroken word) (he : e.isWordBreak = true) :
    syllabified (word ++ e :: rest) = word.syllabified ++ (e.render ++ rest.syllabified) := by
  have hphone : e.isPhone = false := by
    cases e with
    | phone p => cases he
    | stress _ | syllableBoundary | wordBoundary | pause _ => rfl
  rw [syllabified_eq_lettered, syllabified_eq_lettered word, syllabified_eq_lettered rest,
    lettered_append, ← List.singleton_append, lettered_append, lettered_of_isPhone _ hphone]
  congr 1
  · refine lettered_congr fun i p hp => letterAt_front h he ?_ p
    exact Nat.le_of_lt (List.getElem?_eq_some_iff.mp (phoneAt?_eq_some.mp hp)).1
  · refine congrArg _ (lettered_congr fun i p _ => ?_)
    rw [List.length_singleton, ← Nat.add_assoc]
    exact letterAt_behind h he i p

end Break

/-- The syllabified text of a transcription is made of those of its words, with what breaks them
left as it is. -/
theorem syllabified_words (t : Transcription) :
    t.syllabified = writeWords syllabified t 0 t.wordSpans :=
  write_eq_writeWords rfl (fun _ _ _ hword he => syllabified_break hword he) t

end Transcription

end PhoneticSearch
