import PhoneticSearch.Transcription.Syllable

/-!
# Transcriptions with a letter behind each phone

A syllabified text is the transcription with a letter behind each of its phones, which
depends on the place of the phone.
-/

namespace PhoneticSearch.Transcription

/-- A transcription with a letter written behind each of its phones. -/
def lettered (letter : Nat → Phone → Char) (t : Transcription) : Text :=
  t.zipIdx.flatMap fun
    | (.phone p, i) => p.text ++ [':', letter i p]
    | (e, _) => e.render

theorem syllabified_eq_lettered (t : Transcription) :
    t.syllabified = t.lettered (t.letterAt t.syllables) := rfl

/-- The letters behind the phones of the second part are those of their places in the whole. -/
theorem lettered_append (letter : Nat → Phone → Char) (s t : Transcription) :
    lettered letter (s ++ t) = lettered letter s ++ lettered (fun i => letter (s.length + i)) t := by
  have hmoved : t.zipIdx s.length = t.zipIdx.map fun x => (x.1, s.length + x.2) :=
    List.zipIdx_eq_map_add
  simp only [lettered, List.zipIdx_append, List.flatMap_append, Nat.zero_add, hmoved,
    List.flatMap_map]
  refine congrArg (_ ++ ·) (congrArg List.flatten (List.map_congr_left ?_))
  rintro ⟨e, i⟩ -
  cases e <;> rfl

theorem lettered_phone (letter : Nat → Phone → Char) (p : Phone) :
    lettered letter [.phone p] = p.text ++ [':', letter 0 p] :=
  List.flatMap_singleton _ _

/-- No letter stands behind an element that is no phone. -/
theorem lettered_of_isPhone (letter : Nat → Phone → Char) {e : Element} (he : e.isPhone = false) :
    lettered letter [e] = e.render := by
  cases e with
  | phone p => cases he
  | stress _ | syllableBoundary | wordBoundary | pause _ => exact List.flatMap_singleton _ _

/-- Only the letters at the places of phones count. -/
theorem lettered_congr {letter letter' : Nat → Phone → Char} {t : Transcription}
    (h : ∀ i p, t.phoneAt? i = some p → letter i p = letter' i p) :
    lettered letter t = lettered letter' t := by
  rw [lettered, lettered, List.flatMap_def, List.flatMap_def]
  refine congrArg List.flatten (List.map_congr_left ?_)
  rintro ⟨e, i⟩ hmem
  cases e with
  | phone p =>
    have hat : t[i]? = some (.phone p) := List.mem_zipIdx_iff_getElem?.mp hmem
    show p.text ++ [':', letter i p] = p.text ++ [':', letter' i p]
    rw [h i p (phoneAt?_eq_some.mpr hat)]
  | stress _ | syllableBoundary | wordBoundary | pause _ => rfl

end PhoneticSearch.Transcription
