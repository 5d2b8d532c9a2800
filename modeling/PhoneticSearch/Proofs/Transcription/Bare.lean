import Mathlib.Data.List.Basic
import PhoneticSearch.Pattern.Sequence.Spelling

/-!
# Transcriptions without diacritics

The diacritics of phones are in their texts alone.  Without them a transcription has the same
elements in the same places, with the features and constituents that they had, and so the same
words, syllables and symbols.
-/

namespace PhoneticSearch

namespace Element

@[simp] theorem isPhone_bare (e : Element) : e.bare.isPhone = e.isPhone := by
  cases e <;> rfl

@[simp] theorem isWordBreak_bare (e : Element) : e.bare.isWordBreak = e.isWordBreak := by
  cases e <;> rfl

@[simp] theorem phone?_bare (e : Element) : e.bare.phone? = e.phone?.map Phone.bare := by
  cases e <;> rfl

end Element

namespace Transcription

variable {t : Transcription}

@[simp] theorem withoutDiacritics_cons (e : Element) (t : Transcription) :
    withoutDiacritics (e :: t) = e.bare :: t.withoutDiacritics := rfl

theorem length_withoutDiacritics (t : Transcription) : t.withoutDiacritics.length = t.length :=
  List.length_map _

@[simp] theorem phoneAt?_withoutDiacritics (t : Transcription) (i : Nat) :
    t.withoutDiacritics.phoneAt? i = (t.phoneAt? i).map Phone.bare := by
  rw [phoneAt?, phoneAt?, withoutDiacritics, List.getElem?_map]
  cases t[i]? with
  | none => rfl
  | some e => exact e.phone?_bare

theorem phonePositionsFrom_withoutDiacritics (t : Transcription) : ∀ offset,
    phonePositionsFrom offset t.withoutDiacritics = phonePositionsFrom offset t := by
  induction t with
  | nil => exact fun _ => rfl
  | cons e t ih =>
    intro offset
    simp only [withoutDiacritics_cons, phonePositionsFrom, Element.isPhone_bare, ih]

@[simp] theorem phonePositions_withoutDiacritics (t : Transcription) :
    t.withoutDiacritics.phonePositions = t.phonePositions :=
  phonePositionsFrom_withoutDiacritics t 0

theorem wordSpansFrom_withoutDiacritics (t : Transcription) : ∀ start i,
    wordSpansFrom start i t.withoutDiacritics = wordSpansFrom start i t := by
  induction t with
  | nil => exact fun _ _ => rfl
  | cons e t ih =>
    intro start i
    simp only [withoutDiacritics_cons, wordSpansFrom, Element.isWordBreak_bare, ih]

theorem wordSpans_withoutDiacritics (t : Transcription) :
    t.withoutDiacritics.wordSpans = t.wordSpans :=
  wordSpansFrom_withoutDiacritics t 0 0

theorem syllablesFrom_withoutDiacritics (t : Transcription) : ∀ i word inWord current,
    syllablesFrom i word inWord current t.withoutDiacritics =
      syllablesFrom i word inWord current t := by
  induction t with
  | nil => exact fun _ _ _ _ => rfl
  | cons e t ih =>
    intro i word inWord current
    cases e with
    | phone p =>
      simp only [withoutDiacritics_cons, Element.bare, syllablesFrom, ih]
      rfl
    | stress _ | syllableBoundary | wordBoundary | pause _ =>
      simp only [withoutDiacritics_cons, Element.bare, syllablesFrom, ih]

theorem syllables_withoutDiacritics (t : Transcription) :
    t.withoutDiacritics.syllables = t.syllables :=
  syllablesFrom_withoutDiacritics t 0 0 false none

theorem stressPattern_withoutDiacritics (t : Transcription) :
    t.withoutDiacritics.stressPattern = t.stressPattern := by
  rw [stressPattern, stressPattern, syllables_withoutDiacritics]

/-- A transcription has the same symbols without diacritics. -/
theorem symbols_withoutDiacritics (kind : Sequence.Kind) (t : Transcription) :
    Sequence.symbols kind t.withoutDiacritics = Sequence.symbols kind t := by
  cases kind with
  | stress => rw [Sequence.symbols, Sequence.symbols, syllables_withoutDiacritics]
  | soundClass =>
    have hsymbol : ∀ (e : Element) (i : Nat),
        Sequence.soundClassSymbol e.bare i = Sequence.soundClassSymbol e i := by
      intro e i
      cases e <;> rfl
    simp only [Sequence.symbols, withoutDiacritics, List.zipIdx_map, List.filterMap_map]
    exact List.filterMap_congr fun x _ => hsymbol x.1 x.2

end Transcription

end PhoneticSearch
