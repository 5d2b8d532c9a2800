import PhoneticSearch.Proofs.Span
import PhoneticSearch.Proofs.Text.Words

/-!
# Where the words of a text are

The words of a text have characters, none of them white space (`unbroken_of_mem_words`).  They take
spans of bytes that are in order, with room between any two of them (`words_apart`), and a character
is in none of these spans if and only if it is white space (`isBlank_iff`).  So what stands between
neighbours is white space, and there is some (`exists_gap`).
-/

namespace PhoneticSearch.Text

/-- The bytes that a word takes. -/
def wordSpan (word : Nat × Text) : Span := ⟨word.1, word.1 + size word.2⟩

theorem wordSpan_moveWord (distance : Nat) (word : Nat × Text) :
    wordSpan (moveWord distance word) = (wordSpan word).shift distance :=
  congrArg (Span.mk _) (Nat.add_right_comm ..)

theorem mem_wholeWord {w : Text} {word : Nat × Text} :
    word ∈ wholeWord w ↔ w ≠ [] ∧ word = (0, w) := by
  cases w <;> simp [wholeWord]

/-- A word of a text has characters, and none of them is white space. -/
theorem unbroken_of_mem_words (t : Text) : ∀ word ∈ words t, word.2 ≠ [] ∧ Unbroken word.2 := by
  induction t using word_induction with
  | last w hw =>
    intro word hword
    rw [words_unbroken hw] at hword
    obtain ⟨hne, rfl⟩ := mem_wholeWord.mp hword
    exact ⟨hne, hw⟩
  | step w c rest hw hc ih =>
    intro word hword
    rw [words_break hw hc, List.mem_append] at hword
    rcases hword with hword | hword
    · obtain ⟨hne, rfl⟩ := mem_wholeWord.mp hword
      exact ⟨hne, hw⟩
    · obtain ⟨word', hword', rfl⟩ := List.mem_map.mp hword
      exact ih word' hword'

/-- There is room between any two words. -/
theorem words_apart (t : Text) :
    (words t).Pairwise fun v w => (wordSpan v).stop < (wordSpan w).start := by
  have hwhole : ∀ w : Text, (wholeWord w).Pairwise fun v w =>
      (wordSpan v).stop < (wordSpan w).start := by
    intro w
    cases w with
    | nil => exact .nil
    | cons c w => exact List.pairwise_singleton _ _
  induction t using word_induction with
  | last w hw =>
    rw [words_unbroken hw]
    exact hwhole w
  | step w c rest hw hc ih =>
    rw [words_break hw hc]
    refine List.pairwise_append.mpr ⟨hwhole w, List.pairwise_map.mpr (ih.imp ?_), ?_⟩
    · intro v w hlt
      rw [wordSpan_moveWord, wordSpan_moveWord]
      exact Nat.add_lt_add_right hlt _
    · intro v hv v' hv'
      obtain ⟨-, rfl⟩ := mem_wholeWord.mp hv
      obtain ⟨v', -, rfl⟩ := List.mem_map.mp hv'
      have hc := c.utf8Size_pos
      show 0 + size w < v'.1 + (size w + c.utf8Size)
      omega

theorem inOrder_words (t : Text) : Span.InOrder ((words t).map wordSpan) where
  nonempty := by
    intro s hs
    obtain ⟨word, hword, rfl⟩ := List.mem_map.mp hs
    have hsize := mt size_eq_zero.mp (unbroken_of_mem_words t word hword).1
    show word.1 < word.1 + size word.2
    omega
  apart := List.pairwise_map.mpr ((words_apart t).imp Nat.le_of_lt)

/-- The words that a place is in, of a text that starts with a word and white space. -/
theorem mem_words_break {w : Text} (hw : Unbroken w) {c : Char} (hc : isBlank c = true)
    (rest : Text) (i : Nat) :
    (∃ word ∈ words (w ++ c :: rest), (wordSpan word).contains i = true) ↔
      i < size w ∨
        ∃ word ∈ words rest, ((wordSpan word).shift (size w + c.utf8Size)).contains i = true := by
  have hwhole : (∃ word ∈ wholeWord w, (wordSpan word).contains i = true) ↔ i < size w := by
    cases w with
    | nil => simp [wholeWord]
    | cons d w => simp [wholeWord, wordSpan, Span.mem_iff]
  rw [words_break hw hc, ← hwhole]
  simp only [List.mem_append, List.mem_map, or_and_right, exists_or, ← wordSpan_moveWord]
  refine or_congr Iff.rfl ?_
  constructor
  · rintro ⟨_, ⟨word, hword, rfl⟩, hin⟩
    exact ⟨word, hword, hin⟩
  · rintro ⟨word, hword, hin⟩
    exact ⟨_, ⟨word, hword, rfl⟩, hin⟩

/-- What is outside of the words is white space. -/
theorem isBlank_iff (t : Text) : ∀ {before after : Text} {c : Char}, t = before ++ c :: after →
    (isBlank c = true ↔
      ¬ ∃ word ∈ words t, (wordSpan word).contains (size before) = true) := by
  induction t using word_induction with
  | last w hw =>
    intro before after c heq
    have hmem : c ∈ w := by simp [heq]
    have hsize : size before < size w := by
      have hc := c.utf8Size_pos
      rw [heq, size_append, size_cons]
      omega
    rw [hw c hmem, words_unbroken hw]
    refine iff_of_false Bool.false_ne_true (not_not_intro ⟨(0, w), ?_, ?_⟩)
    · exact mem_wholeWord.mpr ⟨List.ne_nil_of_mem hmem, rfl⟩
    · rw [Span.mem_iff]
      exact ⟨Nat.zero_le _, Nat.lt_of_lt_of_eq hsize (Nat.zero_add _).symm⟩
  | step w b rest hw hb ih =>
    intro before after c heq
    have hbpos := b.utf8Size_pos
    have hcpos := c.utf8Size_pos
    rw [mem_words_break hw hb]
    rcases Nat.lt_or_ge (size before) (size w) with hlt | hge
    · -- The place is in the word in front.
      obtain ⟨between, rfl, hrest⟩ := append_eq_append_of_size_le heq.symm (Nat.le_of_lt hlt)
      cases between with
      | nil => simp at hlt
      | cons d between =>
        obtain ⟨rfl, -⟩ := List.cons.inj hrest
        rw [hw c (by simp)]
        exact iff_of_false Bool.false_ne_true (not_not_intro (.inl hlt))
    · obtain ⟨between, rfl, hrest⟩ := append_eq_append_of_size_le heq hge
      have hfront : ¬ size (w ++ between) < size w := Nat.not_lt_of_le hge
      simp only [hfront, false_or]
      cases between with
      | nil =>
        -- The place is that of the white space.
        obtain ⟨rfl, rfl⟩ := List.cons.inj hrest
        refine iff_of_true hb ?_
        rintro ⟨word, -, hin⟩
        rw [List.append_nil, Span.contains_shift_of_lt _ (by omega)] at hin
        cases hin
      | cons d between =>
        obtain ⟨rfl, hbehind⟩ := List.cons.inj hrest
        have hplace : size (w ++ b :: between) = size between + (size w + b.utf8Size) := by
          rw [size_append, size_cons]
          omega
        simp only [ih hbehind, hplace, Span.contains_shift]

/-- Between a word and the next one there is white space and nothing else. -/
theorem exists_gap {t : Text} {k : Nat} {v w : Nat × Text} (hv : (words t)[k]? = some v)
    (hw : (words t)[k + 1]? = some w) : ∃ gap : Text, gap ≠ [] ∧ (∀ c ∈ gap, isBlank c = true) ∧
      gap.StandsAt t ⟨(wordSpan v).stop, (wordSpan w).start⟩ := by
  have hspan : ∀ {k : Nat} {v : Nat × Text}, (words t)[k]? = some v →
      ((words t).map wordSpan)[k]? = some (wordSpan v) := fun hv => by
    rw [List.getElem?_map, hv]
    rfl
  have hlt : (wordSpan v).stop < (wordSpan w).start :=
    rel_of_getElem? (words_apart t) (Nat.lt_succ_self k) hv hw
  obtain ⟨gap, hgap⟩ := (standsAt_of_mem_words (List.mem_of_getElem? hv)).between
    (standsAt_of_mem_words (List.mem_of_getElem? hw)) (Nat.le_of_lt hlt)
  obtain ⟨before, after, ht, hstart, hstop⟩ := id hgap
  refine ⟨gap, ?_, fun c hc => ?_, hgap⟩
  · rintro rfl
    rw [size_nil] at hstop
    exact Nat.ne_of_lt hlt (hstart.trans hstop.symm)
  · obtain ⟨front, back, rfl⟩ := List.append_of_mem hc
    have hplace : t = before ++ front ++ c :: (back ++ after) := by simpa using ht
    rw [isBlank_iff t hplace]
    rintro ⟨word, hword, hin⟩
    have hinside : size (before ++ front) < (wordSpan w).start := by
      have hcpos := c.utf8Size_pos
      have hend : (wordSpan w).start = size before + size (front ++ c :: back) := hstop
      rw [hend, size_append, size_append, size_cons]
      omega
    have hbehind : (wordSpan v).stop ≤ size (before ++ front) := by
      rw [size_append, ← hstart]
      exact Nat.le_add_right _ _
    rw [(inOrder_words t).not_contains_between (hspan hv) (hspan hw) hbehind hinside _
      (List.mem_map_of_mem hword)] at hin
    cases hin

end PhoneticSearch.Text
