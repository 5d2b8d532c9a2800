import PhoneticSearch.Proofs.Text.Words
import PhoneticSearch.Proofs.Transcription.Subsection

/-!
# The words of a transcription

A transcription is a word, or a word, a break and the transcription behind it; the word in
front may be empty (`word_induction`).  Its word spans follow this reading: that of the
word in front, if it has an element, and those of the transcription behind the break, moved
to where that starts (`wordSpans_break`).  So what is outside of the words is what breaks
them (`isWordBreak_iff`), and the words are the stretches between the breaks that are not empty
(`map_subsection_wordSpans`).
-/

namespace PhoneticSearch.Transcription

/-- Whether no element of a transcription is a break. -/
def Unbroken (word : Transcription) : Prop := ∀ e ∈ word, e.isWordBreak = false

/-- The span of a word by itself; no elements are no word. -/
def wholeWord (word : Transcription) : List Span :=
  if word.isEmpty then [] else [⟨0, word.length⟩]

/-- A property of transcriptions that a word has, and that goes over from what is behind a
break to the whole. -/
theorem word_induction {P : Transcription → Prop} (last : ∀ word, Unbroken word → P word)
    (step : ∀ word e rest, Unbroken word → e.isWordBreak = true → P rest →
      P (word ++ e :: rest)) : ∀ t, P t :=
  split_induction Element.isWordBreak last step

/-! ### Spans -/

theorem wordSpansFrom_append {word : Transcription} (h : Unbroken word) (rest : Transcription) :
    ∀ start i, wordSpansFrom start i (word ++ rest) =
      wordSpansFrom start (i + word.length) rest := by
  induction word with
  | nil => exact fun start i => rfl
  | cons e word ih =>
    intro start i
    obtain ⟨he, hword⟩ := List.forall_mem_cons.mp h
    rw [List.cons_append, wordSpansFrom, if_neg (by rw [he]; exact Bool.false_ne_true),
      ih hword, List.length_cons]
    exact congrArg (wordSpansFrom start · rest) (by omega)

/-- Words are moved along with the transcription. -/
theorem wordSpansFrom_shift (distance : Nat) (t : Transcription) : ∀ start i,
    wordSpansFrom (start + distance) (i + distance) t =
      (wordSpansFrom start i t).map (·.shift distance) := by
  have hbegun : ∀ start i, (if start + distance < i + distance then
      [(⟨start + distance, i + distance⟩ : Span)] else []) =
        (if start < i then [(⟨start, i⟩ : Span)] else []).map (·.shift distance) := by
    intro start i
    by_cases hlt : start < i
    · rw [if_pos hlt, if_pos (Nat.add_lt_add_right hlt distance)]
      rfl
    · rw [if_neg hlt, if_neg (by omega)]
      rfl
  induction t with
  | nil => exact hbegun
  | cons e t ih =>
    intro start i
    have hnext := ih (i + 1) (i + 1)
    have hsame := ih start (i + 1)
    rw [Nat.add_right_comm] at hnext hsame
    rw [wordSpansFrom, wordSpansFrom]
    split
    · rw [List.map_append, hbegun, hnext]
    · exact hsame

theorem wholeWord_eq (word : Transcription) :
    (if 0 < word.length then [(⟨0, word.length⟩ : Span)] else []) = wholeWord word := by
  cases word with
  | nil => rfl
  | cons e word => rfl

theorem wordSpans_unbroken {word : Transcription} (h : Unbroken word) :
    word.wordSpans = wholeWord word := by
  have hspans := wordSpansFrom_append h [] 0 0
  rw [List.append_nil, Nat.zero_add] at hspans
  rw [wordSpans, hspans, wordSpansFrom, wholeWord_eq]

theorem wordSpans_break {word rest : Transcription} {e : Element} (h : Unbroken word)
    (he : e.isWordBreak = true) :
    (word ++ e :: rest).wordSpans =
      wholeWord word ++ rest.wordSpans.map (·.shift (word.length + 1)) := by
  have hrest := wordSpansFrom_shift (word.length + 1) rest 0 0
  rw [Nat.zero_add] at hrest
  rw [wordSpans, wordSpansFrom_append h, Nat.zero_add, wordSpansFrom, if_pos he, wholeWord_eq,
    hrest]
  rfl

theorem mem_wholeWord {word : Transcription} {i : Nat} :
    (∃ w ∈ wholeWord word, w.contains i = true) ↔ i < word.length := by
  cases word with
  | nil => simp [wholeWord]
  | cons e word => simp [wholeWord, Span.mem_iff]

theorem mem_wordSpans_break {word rest : Transcription} {e : Element} (h : Unbroken word)
    (he : e.isWordBreak = true) (i : Nat) :
    (∃ w ∈ (word ++ e :: rest).wordSpans, w.contains i = true) ↔
      i < word.length ∨
        ∃ w ∈ rest.wordSpans, (w.shift (word.length + 1)).contains i = true := by
  rw [wordSpans_break h he, ← mem_wholeWord]
  simp only [List.mem_append, List.mem_map, or_and_right, exists_or]
  refine or_congr Iff.rfl ?_
  constructor
  · rintro ⟨_, ⟨w, hw, rfl⟩, hin⟩
    exact ⟨w, hw, hin⟩
  · rintro ⟨w, hw, hin⟩
    exact ⟨_, ⟨w, hw, rfl⟩, hin⟩

/-- What is outside of the words is what breaks them. -/
theorem isWordBreak_iff (t : Transcription) : ∀ {i : Nat} {e : Element}, t[i]? = some e →
    (e.isWordBreak = true ↔ ¬ ∃ w ∈ t.wordSpans, w.contains i = true) := by
  induction t using word_induction with
  | last word hword =>
    intro i e he
    have hin := (List.getElem?_eq_some_iff.mp he).1
    rw [wordSpans_unbroken hword, mem_wholeWord, hword e (List.mem_of_getElem? he)]
    exact iff_of_false Bool.false_ne_true (not_not_intro hin)
  | step word b rest hword hb ih =>
    intro i e he
    rw [mem_wordSpans_break hword hb]
    rcases Nat.lt_trichotomy i word.length with hlt | rfl | hgt
    · rw [List.getElem?_append_left hlt] at he
      rw [hword e (List.mem_of_getElem? he)]
      exact iff_of_false Bool.false_ne_true (not_not_intro (Or.inl hlt))
    · rw [List.getElem?_append_right (Nat.le_refl _), Nat.sub_self] at he
      obtain rfl : b = e := Option.some.inj he
      refine iff_of_true hb ?_
      rintro (hlt | ⟨w, -, hin⟩)
      · exact Nat.lt_irrefl _ hlt
      · rw [Span.contains_shift_of_lt w (Nat.lt_succ_self _)] at hin
        cases hin
    · -- The position is that of an element behind the break.
      obtain ⟨j, rfl⟩ : ∃ j, i = j + (word.length + 1) := ⟨i - (word.length + 1), by omega⟩
      rw [List.getElem?_append_right (by omega),
        show j + (word.length + 1) - word.length = j + 1 by omega,
        List.getElem?_cons_succ] at he
      have hfront : ¬ j + (word.length + 1) < word.length := by omega
      simp only [ih he, hfront, false_or, Span.contains_shift]

/-! ### What is made of words -/

theorem subsection_shift (before t : Transcription) (s : Span) :
    (before ++ t).subsection (s.shift before.length) = t.subsection s := by
  simp only [subsection, Span.shift]
  rw [Nat.add_comm s.stop, Nat.add_comm s.start, List.take_length_add_append,
    List.drop_length_add_append]

theorem subsection_front (word rest : Transcription) :
    (word ++ rest).subsection ⟨0, word.length⟩ = word := by
  rw [subsection, List.take_left, List.drop_zero]

/-- What is made of the words, each with its span, where there is but one. -/
theorem map_wordSpans_unbroken {β : Type} (f : Span → Transcription → β) {word : Transcription}
    (h : Unbroken word) : (word.wordSpans.map fun w => f w (word.subsection w)) =
      (wholeWord word).map fun w => f w word := by
  rw [wordSpans_unbroken h, wholeWord]
  split
  · rfl
  · have hwhole := subsection_front word []
    rw [List.append_nil] at hwhole
    rw [List.map_singleton, List.map_singleton, hwhole]

/-- What is made of the words, each with its span: of the word in front, and of those behind the
break. -/
theorem map_wordSpans_break {β : Type} (f : Span → Transcription → β)
    {word rest : Transcription} {e : Element} (h : Unbroken word) (he : e.isWordBreak = true) :
    ((word ++ e :: rest).wordSpans.map fun w => f w ((word ++ e :: rest).subsection w)) =
      ((wholeWord word).map fun w => f w word) ++
        rest.wordSpans.map fun w => f (w.shift (word.length + 1)) (rest.subsection w) := by
  rw [wordSpans_break h he, List.map_append, List.map_map]
  congr 1
  · rw [wholeWord]
    split
    · rfl
    · rw [List.map_singleton, List.map_singleton, subsection_front]
  · refine List.map_congr_left fun w _ => ?_
    have hrest := subsection_shift (word ++ [e]) rest w
    rw [List.length_append, List.length_singleton, List.append_assoc, List.singleton_append]
      at hrest
    rw [Function.comp_apply, hrest]

theorem wordSpans_within (t : Transcription) :
    ∀ w ∈ t.wordSpans, w.start < w.stop ∧ w.stop ≤ t.length := by
  have hwhole : ∀ {word : Transcription}, ∀ w ∈ wholeWord word,
      w.start < w.stop ∧ w.stop ≤ word.length := by
    intro word w hw
    cases word with
    | nil => cases hw
    | cons e word =>
      obtain rfl := List.mem_singleton.mp hw
      exact ⟨Nat.succ_pos _, Nat.le_refl _⟩
  induction t using word_induction with
  | last word hword =>
    rw [wordSpans_unbroken hword]
    exact hwhole
  | step word e rest hword he ih =>
    intro w hw
    rw [wordSpans_break hword he, List.mem_append] at hw
    rw [List.length_append, List.length_cons]
    rcases hw with hw | hw
    · obtain ⟨hlt, hle⟩ := hwhole w hw
      exact ⟨hlt, by omega⟩
    · obtain ⟨v, hv, rfl⟩ := List.mem_map.mp hw
      obtain ⟨hlt, hle⟩ := ih v hv
      simp only [Span.shift]
      omega

/-! ### The stretches between breaks -/

/-- The stretches in front of, between and behind the breaks; they may be empty. -/
def parts (t : Transcription) : List Transcription := t.splitOnP Element.isWordBreak

theorem parts_unbroken {word : Transcription} (h : Unbroken word) : word.parts = [word] :=
  List.splitOnP_eq_singleton h

theorem parts_break {word : Transcription} (h : Unbroken word) {e : Element}
    (he : e.isWordBreak = true) (rest : Transcription) :
    parts (word ++ e :: rest) = word :: parts rest :=
  List.splitOnP_append_cons_of_forall_mem h e he rest

theorem unbroken_of_mem_parts (t : Transcription) : ∀ part ∈ t.parts, Unbroken part := by
  induction t using word_induction with
  | last word hword =>
    rw [parts_unbroken hword]
    exact List.forall_mem_singleton.mpr hword
  | step word e rest hword he ih =>
    rw [parts_break hword he]
    exact List.forall_mem_cons.mpr ⟨hword, ih⟩

theorem parts_ne_nil (t : Transcription) : t.parts ≠ [] := List.splitOnP_ne_nil _ t

/-- There is but one stretch if and only if nothing breaks the transcription. -/
theorem length_parts_eq_one_iff (t : Transcription) : t.parts.length = 1 ↔ Unbroken t := by
  induction t using word_induction with
  | last word hword => exact iff_of_true (by rw [parts_unbroken hword]; rfl) hword
  | step word e rest hword he _ =>
    have hrest := List.length_pos_iff.mpr rest.parts_ne_nil
    refine iff_of_false ?_ fun hall => ?_
    · rw [parts_break hword he, List.length_cons]
      omega
    · rw [hall e (by simp)] at he
      cases he

/-- The words are the stretches that are not empty. -/
theorem map_subsection_wordSpans (t : Transcription) :
    t.wordSpans.map t.subsection = t.parts.filter (!·.isEmpty) := by
  have hwhole : ∀ word : Transcription,
      (wholeWord word).map (fun _ => word) = [word].filter (!·.isEmpty) := by
    intro word
    cases word <;> rfl
  induction t using word_induction with
  | last word hword =>
    rw [map_wordSpans_unbroken (fun _ u => u) hword, parts_unbroken hword, hwhole]
  | step word e rest hword he ih =>
    rw [map_wordSpans_break (fun _ u => u) hword he, ih, hwhole, parts_break hword he,
      ← List.filter_append]
    rfl

/-! ### Writing word by word -/

/-- A transcription from a position on with its words, at some spans, written in a way of
their own, and the other elements as they are written. -/
def writeWords (write : Transcription → Text) (t : Transcription) : Nat → List Span → Text
  | i, [] => render (t.drop i)
  | i, w :: rest =>
    render (t.subsection ⟨i, w.start⟩) ++ write (t.subsection w) ++ writeWords write t w.stop rest

variable {write : Transcription → Text}

theorem writeWords_shift (before t : Transcription) : ∀ (spans : List Span) (i : Nat),
    writeWords write (before ++ t) (i + before.length) (spans.map (·.shift before.length)) =
      writeWords write t i spans := by
  intro spans
  induction spans with
  | nil =>
    intro i
    rw [List.map_nil, writeWords, writeWords, Nat.add_comm, List.drop_length_add_append]
  | cons w spans ih =>
    intro i
    have hgap := subsection_shift before t ⟨i, w.start⟩
    rw [List.map_cons, writeWords, writeWords, subsection_shift, ← hgap, ← ih]
    rfl

/-- An element in front of the words is written as it is. -/
theorem writeWords_outside {t : Transcription} {i : Nat} {e : Element} (he : t[i]? = some e)
    {spans : List Span} (h : ∀ w ∈ spans, i < w.start) :
    writeWords write t i spans = e.render ++ writeWords write t (i + 1) spans := by
  obtain ⟨hi, rfl⟩ := List.getElem?_eq_some_iff.mp he
  cases spans with
  | nil => rw [writeWords, writeWords, List.drop_eq_getElem_cons hi, render_cons]
  | cons w spans =>
    have hlt := h w List.mem_cons_self
    have hi' : i < (t.take w.start).length := by
      rw [List.length_take]
      omega
    have hgap : t.subsection ⟨i, w.start⟩ = t[i] :: t.subsection ⟨i + 1, w.start⟩ := by
      rw [subsection, List.drop_eq_getElem_cons hi', List.getElem_take]
      rfl
    rw [writeWords, writeWords, hgap, render_cons, List.append_assoc, List.append_assoc,
      List.append_assoc]

/-- What is written part by part, if breaks are written as they are, is written word by word. -/
theorem write_eq_writeWords (hnil : write [] = [])
    (hbreak : ∀ word e rest, Unbroken word → e.isWordBreak = true →
      write (word ++ e :: rest) = write word ++ (e.render ++ write rest)) (t : Transcription) :
    write t = writeWords write t 0 t.wordSpans := by
  induction t using word_induction with
  | last word hword =>
    have hwhole := subsection_front word []
    rw [List.append_nil] at hwhole
    rw [wordSpans_unbroken hword]
    cases word with
    | nil => exact hnil
    | cons e word =>
      show _ = render [] ++ write _ ++ render (List.drop _ _)
      rw [hwhole, List.drop_length, render_nil, List.nil_append, List.append_nil]
  | step word e rest hword he ih =>
    have hat : (word ++ e :: rest)[word.length]? = some e := by simp
    have hlater : ∀ w ∈ rest.wordSpans.map (·.shift (word.length + 1)), word.length < w.start := by
      intro w hw
      obtain ⟨w, -, rfl⟩ := List.mem_map.mp hw
      exact Nat.lt_of_lt_of_le (Nat.lt_succ_self _) (Nat.le_add_left _ _)
    have hrest : writeWords write (word ++ e :: rest) word.length
        (rest.wordSpans.map (·.shift (word.length + 1))) = e.render ++ write rest := by
      have hmoved := @writeWords_shift write (word ++ [e]) rest rest.wordSpans 0
      rw [List.length_append, List.length_singleton, Nat.zero_add, List.append_assoc,
        List.singleton_append] at hmoved
      rw [writeWords_outside hat hlater, hmoved, ← ih]
    rw [hbreak word e rest hword he, wordSpans_break hword he, ← hrest]
    cases word with
    | nil =>
      rw [hnil]
      rfl
    | cons first word =>
      have hword := subsection_front (first :: word) (e :: rest)
      show _ = render [] ++ write _ ++ _
      rw [hword, render_nil, List.nil_append]
      rfl

end PhoneticSearch.Transcription
