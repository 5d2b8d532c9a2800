import Mathlib.Data.List.Chain
import PhoneticSearch.Proofs.Pattern.SoundClass
import PhoneticSearch.Proofs.Transcription.Words

/-!
# Spaces between words

By sound class, a space is spelled for each word boundary and for each pause.  So the spelling is
that of the stretches between the breaks, with a space between any two of them
(`spelling_soundClass_parts`).  The words with a phone are spelled with single spaces between them
if and only if nothing breaks the transcription or every stretch has a phone
(`spelling_eq_spacedWords_iff`).  A transcription that was read has no word boundary at its ends and
none behind another one, so that this is the case where it has no pauses and each of its words has
a phone; but a pause behind a word boundary, or at the start, is spelled by a space of its own.
-/

namespace PhoneticSearch

namespace Text

variable {separator : Char}

/-- Joined texts without the separator have it once between any two of them. -/
theorem count_join : ∀ {texts : List Text}, (∀ text ∈ texts, separator ∉ text) →
    (join [separator] texts).count separator = texts.length - 1 := by
  intro texts
  induction texts with
  | nil => exact fun _ => rfl
  | cons first rest ih =>
    intro h
    obtain ⟨hfirst, hrest⟩ := List.forall_mem_cons.mp h
    have hnone := List.count_eq_zero_of_not_mem hfirst
    cases rest with
    | nil => exact hnone
    | cons second rest =>
      rw [join, List.count_append, List.count_append, hnone, ih hrest, List.count_singleton_self]
      · simp only [List.length_cons]
        omega
      · exact List.cons_ne_nil second rest

/-- Of joined texts some that are empty can be left out if and only if there are none such, or but
one text. -/
theorem join_map_filter_iff {α : Type} {items : List α} {f : α → Text} {keep : α → Bool}
    (hseparator : ∀ x ∈ items, separator ∉ f x) (hempty : ∀ x, keep x = false → f x = [])
    (hitems : items ≠ []) :
    join [separator] (items.map f) = join [separator] ((items.filter keep).map f) ↔
      items.length = 1 ∨ ∀ x ∈ items, keep x = true := by
  constructor
  · intro h
    have hall : ∀ text ∈ items.map f, separator ∉ text := List.forall_mem_map.mpr hseparator
    have hkept : ∀ text ∈ (items.filter keep).map f, separator ∉ text :=
      List.forall_mem_map.mpr fun x hx => hseparator x (List.mem_filter.mp hx).1
    have hcount := congrArg (List.count separator) h
    rw [count_join hall, count_join hkept, List.length_map, List.length_map] at hcount
    by_cases hone : items.length = 1
    · exact .inl hone
    · have hpos := List.length_pos_iff.mpr hitems
      have hlength : (items.filter keep).length = items.length := by omega
      exact .inr (List.length_filter_eq_length_iff.mp hlength)
  · rintro (hone | hall)
    · obtain ⟨x, rfl⟩ := List.length_eq_one_iff.mp hone
      cases hx : keep x with
      | true => rw [List.filter_cons_of_pos hx, List.filter_nil]
      | false =>
        rw [List.filter_cons_of_neg (by simp [hx]), List.filter_nil, List.map_singleton,
          hempty x hx]
        rfl
    · rw [List.filter_eq_self.mpr hall]

end Text

namespace Transcription

/-! ### What is read -/

/-- Legible elements have no word boundary behind another one, and none in front of all. -/
theorem Legible.apart {table : FeatureTable} {done : List Element} (h : Legible table done) :
    done.IsChain (fun e before => e = .wordBoundary → before ≠ .wordBoundary) ∧
      done.getLast? ≠ some .wordBoundary := by
  induction h with
  | nil => exact ⟨.nil, by simp⟩
  | @phone _ before _ _ ih | @stress _ before _ ih | @syllableBoundary before _ ih
  | @pause _ before _ ih =>
    refine ⟨List.isChain_cons.mpr ⟨fun _ _ hne => (by cases hne), ih.1⟩, ?_⟩
    rw [List.getLast?_cons]
    cases hlast : before.getLast? with
    | none => simp
    | some e => exact hlast ▸ ih.2
  | @wordBoundary before htakes _ ih =>
    obtain ⟨e, before, rfl⟩ := List.exists_cons_of_ne_nil htakes.1
    refine ⟨List.isChain_cons.mpr ⟨fun e' he' _ heq => htakes.2 (heq ▸ he'), ih.1⟩, ?_⟩
    rw [List.getLast?_cons_cons]
    exact ih.2

/-- Without pauses, no stretch of a transcription with word boundaries only between words is
empty. -/
theorem ne_nil_of_mem_parts {t : Transcription} (hpauses : ∀ l, .pause l ∉ t) : t ≠ [] →
    t.IsChain (fun before e => e = .wordBoundary → before ≠ .wordBoundary) →
    t.head? ≠ some .wordBoundary → t.getLast? ≠ some .wordBoundary →
      ∀ part ∈ t.parts, part ≠ [] := by
  induction t using word_induction with
  | last word hword =>
    intro hne _ _ _ part hpart
    rw [parts_unbroken hword, List.mem_singleton] at hpart
    rwa [hpart]
  | step word e rest hword he ih =>
    intro _ hchain hhead hlast part hpart
    have he' : e = .wordBoundary := by
      cases e with
      | wordBoundary => rfl
      | pause l => exact absurd (List.mem_append_right _ List.mem_cons_self) (hpauses l)
      | phone _ | stress _ | syllableBoundary => cases he
    subst he'
    have hrest := (List.isChain_append.mp hchain).2.1
    rw [parts_break hword he] at hpart
    rcases List.mem_cons.mp hpart with rfl | hpart
    · rintro rfl
      exact hhead rfl
    · refine ih ?_ ?_ (List.isChain_cons.mp hrest).2 ?_ ?_ part hpart
      · exact fun l hl => hpauses l (List.mem_append_right _ (List.mem_cons_of_mem _ hl))
      · rintro rfl
        exact hlast (by simp)
      · exact fun hfirst => (List.isChain_cons.mp hrest).1 _ hfirst rfl rfl
      · intro hend
        refine hlast ?_
        rw [List.getLast?_append, List.getLast?_cons, hend]
        rfl

end Transcription

namespace Sequence

open Transcription (Unbroken)

/-! ### Words and spaces -/

/-- The letters of the phones. -/
def phoneLetters (t : Transcription) : Text := t.phones.map soundClassOf

/-- The letters of the words that have a phone, with single spaces between the words. -/
def spacedWords (t : Transcription) : Text :=
  Text.join [' '] (((t.wordSpans.map t.subsection).filter (·.any Element.isPhone)).map phoneLetters)

theorem space_not_mem_phoneLetters (t : Transcription) : ' ' ∉ phoneLetters t := by
  intro h
  obtain ⟨p, -, hp⟩ := List.mem_map.mp h
  revert hp
  unfold soundClassOf
  split
  · decide
  · split
    · decide
    · split <;> decide

theorem phoneLetters_of_not_any {t : Transcription} (h : t.any Element.isPhone = false) :
    phoneLetters t = [] := by
  rw [phoneLetters, Transcription.phones, List.filterMap_eq_nil_iff.mpr, List.map_nil]
  intro e he
  cases e with
  | phone p => cases (List.any_eq_false.mp h) _ he rfl
  | stress _ | syllableBoundary | wordBoundary | pause _ => rfl

theorem spelling_unbroken {word : Transcription} (h : Unbroken word) :
    spelling .soundClass word = phoneLetters word := by
  rw [spelling_soundClass]
  induction word with
  | nil => rfl
  | cons e word ih =>
    obtain ⟨he, hword⟩ := List.forall_mem_cons.mp h
    rw [List.flatMap_cons, ih hword]
    cases e with
    | phone _ | stress _ | syllableBoundary => rfl
    | wordBoundary | pause _ => cases he

/-- By sound class, the stretches between the breaks are spelled with a space between any two. -/
theorem spelling_soundClass_parts (t : Transcription) :
    spelling .soundClass t = Text.join [' '] (t.parts.map phoneLetters) := by
  induction t using Transcription.word_induction with
  | last word hword => rw [Transcription.parts_unbroken hword, spelling_unbroken hword]; rfl
  | step word e rest hword he ih =>
    have hspace : letters e = [' '] := by
      cases e with
      | wordBoundary | pause _ => rfl
      | phone _ | stress _ | syllableBoundary => cases he
    rw [spelling_soundClass] at ih ⊢
    rw [List.flatMap_append, ← spelling_soundClass, spelling_unbroken hword, List.flatMap_cons, ih,
      hspace, Transcription.parts_break hword he, List.map_cons, Text.join, List.append_assoc]
    exact mt List.map_eq_nil_iff.mp rest.parts_ne_nil

theorem spacedWords_eq (t : Transcription) : spacedWords t =
    Text.join [' '] ((t.parts.filter (·.any Element.isPhone)).map phoneLetters) := by
  have hfilled : ∀ part : Transcription,
      (part.any Element.isPhone && !part.isEmpty) = part.any Element.isPhone := by
    intro part
    cases part with
    | nil => rfl
    | cons e part => exact Bool.and_true _
  rw [spacedWords, Transcription.map_subsection_wordSpans, List.filter_filter]
  simp only [hfilled]

/-- The spelling is that of the words with single spaces if and only if nothing breaks the
transcription or every stretch between breaks has a phone. -/
theorem spelling_eq_spacedWords_iff (t : Transcription) :
    spelling .soundClass t = spacedWords t ↔
      Unbroken t ∨ ∀ part ∈ t.parts, part.any Element.isPhone = true := by
  rw [spelling_soundClass_parts, spacedWords_eq, ← Transcription.length_parts_eq_one_iff]
  exact Text.join_map_filter_iff (fun part _ => space_not_mem_phoneLetters part)
    (fun _ => phoneLetters_of_not_any) t.parts_ne_nil

/-- **Spaces in spelling by sound class.**  For every text that is read as a transcription, the
letters of the stretches between its breaks are spelled with a space between any two of them.  These
are the words that have a phone, with single spaces between them, if and only if nothing breaks the
transcription or every stretch has a phone; and so it is where there are no pauses and every word
has a phone. -/
theorem spelling_spaced {table : FeatureTable} {text : Text} {t : Transcription}
    (hread : Transcription.read table text = .ok t) :
    spelling .soundClass t = Text.join [' '] (t.parts.map phoneLetters) ∧
    (spelling .soundClass t = spacedWords t ↔
      Unbroken t ∨ ∀ part ∈ t.parts, part.any Element.isPhone = true) ∧
    ((∀ l, .pause l ∉ t) → (∀ w ∈ t.wordSpans, (t.subsection w).any Element.isPhone = true) →
      spelling .soundClass t = spacedWords t) := by
  refine ⟨spelling_soundClass_parts t, spelling_eq_spacedWords_iff t, fun hpauses hwords => ?_⟩
  rw [spelling_eq_spacedWords_iff]
  by_cases hne : t = []
  · exact .inl (hne ▸ List.forall_mem_nil _)
  · obtain ⟨hlegible, hend⟩ := Transcription.legible_of_read hread
    obtain ⟨hchain, hstart⟩ := hlegible.apart
    rw [List.isChain_reverse] at hchain
    rw [List.getLast?_reverse] at hstart
    rw [List.head?_reverse] at hend
    -- The stretches are the words, as none of them is empty.
    refine .inr fun part hpart => ?_
    have hpart' : part ∈ t.wordSpans.map t.subsection := by
      rw [Transcription.map_subsection_wordSpans, List.mem_filter]
      have := Transcription.ne_nil_of_mem_parts hpauses hne hchain hstart hend part hpart
      exact ⟨hpart, by simpa using this⟩
    obtain ⟨w, hw, rfl⟩ := List.mem_map.mp hpart'
    exact hwords w hw

theorem spelling_spaced_three : ∃ t, Transcription.read .builtin "ma ˈpa.ta  i".toList = .ok t ∧
    (∀ l, .pause l ∉ t) ∧ (∀ w ∈ t.wordSpans, (t.subsection w).any Element.isPhone = true) ∧
    spelling .soundClass t = "CV CVCV V".toList ∧ spelling .soundClass t = spacedWords t := by
  have hread : Transcription.read .builtin "ma ˈpa.ta  i".toList = .ok _ := rfl
  refine ⟨_, hread, ?pauses, ?words, ?spelled, (spelling_spaced hread).2.2 ?pauses ?words⟩
  case pauses => intro l; cases l <;> decide +kernel
  all_goals decide +kernel

/-- A pause between two words is spelled by a space more, and so is each of the word boundaries
around it. -/
theorem spelling_ne_spacedWords : ∃ t, Transcription.read .builtin "a (.) t".toList = .ok t ∧
    spelling .soundClass t = "V   C".toList ∧ spacedWords t = "V C".toList :=
  ⟨_, rfl, by decide +kernel, by decide +kernel⟩

end Sequence

end PhoneticSearch
