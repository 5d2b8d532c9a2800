import PhoneticSearch.Proofs.Text.WordSpans
import PhoneticSearch.Proofs.Transcription.Division
import PhoneticSearch.Proofs.Transcription.Words

/-!
# Words and what stands between them

The words of the tiers of a group are told apart by their numbers, so that a word that is lost, cut
in two or joined with another one would move those behind it.  A text is cut into words at white
space, and a transcription at word boundaries and pauses.  Either way nothing is lost and nothing
else is cut (`words_exact`): a word has something in it and nothing that breaks words, neighbours
have a break between them, and whatever is in no word is a break.
-/

namespace PhoneticSearch

/-- Whether words, each with the byte that it starts at, are what a text is cut into. -/
structure Text.IsCutInto (t : Text) (words : List (Nat × Text)) : Prop where
  increasing : words.Pairwise fun v w => v.1 < w.1
  nonempty : ∀ w ∈ words, w.2 ≠ []
  unbroken : ∀ w ∈ words, ∀ c ∈ w.2, isBlank c = false
  standsAt : ∀ w ∈ words, w.2.StandsAt t (wordSpan w)
  /-- Between a word and the next one there is white space and nothing else. -/
  gap : ∀ k v w, words[k]? = some v → words[k + 1]? = some w →
    ∃ gap : Text, gap ≠ [] ∧ (∀ c ∈ gap, isBlank c = true) ∧
      gap.StandsAt t ⟨(wordSpan v).stop, (wordSpan w).start⟩
  /-- A character that is in no word is white space. -/
  outside : ∀ before c after, t = before ++ c :: after →
    (∀ w ∈ words, (wordSpan w).contains (size before) = false) → isBlank c = true

/-- Whether spans are those of the words that a transcription is cut into. -/
structure Transcription.IsCutInto (t : Transcription) (words : List Span) : Prop where
  nonempty : ∀ w ∈ words, w.start < w.stop
  within : ∀ w ∈ words, w.stop ≤ t.length
  increasing : words.Pairwise fun v w => v.start < w.start
  disjoint : words.Pairwise fun v w => ∀ i, ¬ (v.contains i = true ∧ w.contains i = true)
  unbroken : ∀ w ∈ words, ∀ e ∈ t.subsection w, e.isWordBreak = false
  /-- Between a word and the next one there are breaks and nothing else. -/
  gap : ∀ k v w, words[k]? = some v → words[k + 1]? = some w →
    t.subsection ⟨v.stop, w.start⟩ ≠ [] ∧
      ∀ e ∈ t.subsection ⟨v.stop, w.start⟩, e.isWordBreak = true
  /-- An element that is in no word is a word boundary or a pause. -/
  outside : ∀ i e, t[i]? = some e → (∀ w ∈ words, w.contains i = false) →
    e = .wordBoundary ∨ ∃ l, e = .pause l

theorem Text.isCutInto_words (t : Text) : t.IsCutInto (words t) where
  increasing := (words_apart t).imp fun {v w} hlt =>
    Nat.lt_of_le_of_lt (Nat.le_add_right v.1 (size v.2)) hlt
  nonempty w hw := (unbroken_of_mem_words t w hw).1
  unbroken w hw := (unbroken_of_mem_words t w hw).2
  standsAt _ hw := standsAt_of_mem_words hw
  gap _ _ _ := exists_gap
  outside before c after heq hnone := by
    rw [isBlank_iff t heq]
    rintro ⟨w, hw, hin⟩
    exact absurd hin (by simp [hnone w hw])

namespace Transcription

variable (t : Transcription)

theorem inOrder_wordSpans : Span.InOrder t.wordSpans where
  nonempty w hw := (wordSpans_within t w hw).1
  apart := t.wordSpans_apart.imp Nat.le_of_lt

/-- Between a word and the next one there are breaks and nothing else. -/
theorem breaks_between {k : Nat} {v w : Span} (hv : t.wordSpans[k]? = some v)
    (hw : t.wordSpans[k + 1]? = some w) : t.subsection ⟨v.stop, w.start⟩ ≠ [] ∧
      ∀ e ∈ t.subsection ⟨v.stop, w.start⟩, e.isWordBreak = true := by
  constructor
  · have hlt : v.stop < w.start := rel_of_getElem? t.wordSpans_apart (Nat.lt_succ_self k) hv hw
    have hwithin := wordSpans_within t w (List.mem_of_getElem? hw)
    rw [← List.length_pos_iff, length_subsection]
    simp only
    omega
  · intro e he
    obtain ⟨i, hi, he⟩ := mem_subsection.mp he
    obtain ⟨hle, hlt⟩ := Span.mem_iff.mp hi
    rw [isWordBreak_iff t he]
    rintro ⟨u, hu, hin⟩
    rw [t.inOrder_wordSpans.not_contains_between hv hw hle hlt u hu] at hin
    cases hin

theorem isCutInto_wordSpans : t.IsCutInto t.wordSpans where
  nonempty w hw := (wordSpans_within t w hw).1
  within w hw := (wordSpans_within t w hw).2
  increasing := t.wordSpans_apart.imp_of_mem fun {v w} hv _ hlt =>
    Nat.lt_trans (wordSpans_within t v hv).1 hlt
  disjoint := t.wordSpans_apart.imp fun {v w} hlt i hin => by
    rw [Span.mem_iff, Span.mem_iff] at hin
    omega
  unbroken w hw e he := by
    obtain ⟨i, hi, he⟩ := mem_subsection.mp he
    rw [Bool.eq_false_iff, Ne, isWordBreak_iff t he]
    exact not_not_intro ⟨w, hw, hi⟩
  gap _ _ _ := t.breaks_between
  outside i e he hnone := by
    have hbreak : e.isWordBreak = true := by
      rw [isWordBreak_iff t he]
      rintro ⟨w, hw, hin⟩
      exact absurd hin (by simp [hnone w hw])
    cases e with
    | wordBoundary => exact .inl rfl
    | pause l => exact .inr ⟨l, rfl⟩
    | phone _ | stress _ | syllableBoundary => cases hbreak

end Transcription

/-- **Cutting into words is exact.**  The words of a text have increasing offsets, and each of them
has characters, has no white space and stands at its offset; the spans of the words of a
transcription increase, have no position in common, and each of them has elements and no break.
Between neighbours there are breaks and nothing else, and what is in no word is a break: white space
in a text, a word boundary or a pause in a transcription. -/
theorem words_exact (text : Text) (t : Transcription) :
    text.IsCutInto (Text.words text) ∧ t.IsCutInto t.wordSpans :=
  ⟨text.isCutInto_words, t.isCutInto_wordSpans⟩

/-- White space in front of the first word and behind the last one makes no words. -/
example : Text.words "  ab\u3000\tc ".toList = [(2, ['a', 'b']), (8, ['c'])] := by decide

end PhoneticSearch
