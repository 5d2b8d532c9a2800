import PhoneticSearch.Transcription.Syllabification

/-!
# What the default constituents leave alone

The default constituents are assigned to the phones and to nothing else: two
transcriptions differ in their constituents only when `assign` makes them equal, and a
transcription and its syllabification are such (`assign_syllabify`).  They are written
alike (`render_syllabify`), and where there are no phones nothing is assigned
(`syllabify_of_isPhone`).
-/

namespace PhoneticSearch

@[simp] theorem Phone.withConstituent_withConstituent (p : Phone) (c d : Constituent) :
    (p.withConstituent c).withConstituent d = p.withConstituent d := rfl

namespace Element

@[simp] theorem withConstituent_withConstituent (c d : Constituent) (e : Element) :
    (e.withConstituent d).withConstituent c = e.withConstituent c := by
  cases e <;> rfl

@[simp] theorem render_withConstituent (c : Constituent) (e : Element) :
    (e.withConstituent c).render = e.render := by
  cases e <;> rfl

@[simp] theorem isPhone_withConstituent (c : Constituent) (e : Element) :
    (e.withConstituent c).isPhone = e.isPhone := by
  cases e <;> rfl

@[simp] theorem isVowel_withConstituent (c : Constituent) (e : Element) :
    (e.withConstituent c).isVowel = e.isVowel := by
  cases e <;> rfl

@[simp] theorem isTransparent_withConstituent (c : Constituent) (e : Element) :
    (e.withConstituent c).isTransparent = e.isTransparent := by
  cases e <;> rfl

theorem withConstituent_of_isPhone {e : Element} (h : e.isPhone = false) (c : Constituent) :
    e.withConstituent c = e := by
  cases e with
  | phone p => cases h
  | stress _ | syllableBoundary | wordBoundary | pause _ => rfl

end Element

namespace Transcription

/-! ### One constituent for all phones -/

variable (c d : Constituent) (s t : List Element)

@[simp] theorem assign_nil : assign c [] = [] := rfl

@[simp] theorem assign_cons (e : Element) :
    assign c (e :: t) = e.withConstituent c :: assign c t := rfl

@[simp] theorem assign_append : assign c (s ++ t) = assign c s ++ assign c t := List.map_append

@[simp] theorem assign_reverse : assign c t.reverse = (assign c t).reverse := List.map_reverse

@[simp] theorem assign_assign : assign c (assign d t) = assign c t := by
  simp [assign, Function.comp_def]

@[simp] theorem render_assign : render (assign c t) = render t := by
  induction t with
  | nil => rfl
  | cons e t ih => rw [assign_cons, render_cons, render_cons, ih, Element.render_withConstituent]

@[simp] theorem any_isPhone_assign : (assign c t).any Element.isPhone = t.any Element.isPhone := by
  simp [assign, Function.comp_def]

@[simp] theorem any_isVowel_assign : (assign c t).any Element.isVowel = t.any Element.isVowel := by
  simp [assign, Function.comp_def]

@[simp] theorem any_isTransparent_assign :
    (assign c t).any Element.isTransparent = t.any Element.isTransparent := by
  simp [assign, Function.comp_def]

variable {t} in
theorem assign_of_isPhone (h : t.any Element.isPhone = false) : assign c t = t := by
  induction t with
  | nil => rfl
  | cons e t ih =>
    rw [List.any_cons, Bool.or_eq_false_iff] at h
    rw [assign_cons, ih h.2, Element.withConstituent_of_isPhone h.1]

/-! ### The default constituents -/

theorem assign_divide : assign c (divide t) = assign c t := by
  have hsplit := List.takeWhile_append_dropWhile (p := (!·.isTransparent)) (l := t)
  rw [divide]
  split
  · next hrest =>
    rw [List.isEmpty_iff] at hrest
    rw [hrest, List.append_nil] at hsplit
    rw [hsplit, assign_append, assign_assign, assign_assign, ← assign_append,
      List.take_append_drop]
  · rw [assign_append, assign_assign, assign_assign, ← assign_append, hsplit]

theorem assign_assignAfterVowel : ∀ gap,
    assign c (assignAfterVowel gap t) = assign c (gap.reverse ++ t) := by
  induction t with
  | nil => intro gap; rw [assignAfterVowel, assign_assign, List.append_nil]
  | cons e t ih =>
    intro gap
    rw [assignAfterVowel]
    split
    · simp only [assign_append, assign_divide, assign_cons, ih, List.reverse_nil, List.nil_append,
        Element.withConstituent_withConstituent]
    · rw [ih, List.reverse_cons, List.append_assoc, List.singleton_append]

theorem assign_assignWordAfter : ∀ lead,
    assign c (assignWordAfter lead t) = assign c (lead.reverse ++ t) := by
  induction t with
  | nil => intro lead; rw [assignWordAfter, List.append_nil]
  | cons e t ih =>
    intro lead
    rw [assignWordAfter]
    split
    · simp only [assign_append, assign_assign, assign_cons, assign_assignAfterVowel,
        List.reverse_nil, List.nil_append, Element.withConstituent_withConstituent]
    · rw [ih, List.reverse_cons, List.append_assoc, List.singleton_append]

theorem assign_assignWord : assign c (assignWord t) = assign c t := by
  rw [assignWord, assign_assignWordAfter, List.reverse_nil, List.nil_append]

theorem assign_syllabifyFrom : ∀ word,
    assign c (syllabifyFrom word t) = assign c (word.reverse ++ t) := by
  induction t with
  | nil => intro word; rw [syllabifyFrom, assign_assignWord, List.append_nil]
  | cons e t ih =>
    intro word
    rw [syllabifyFrom]
    split
    · simp only [assign_append, assign_assignWord, assign_cons, ih, List.reverse_nil,
        List.nil_append]
    · rw [ih, List.reverse_cons, List.append_assoc, List.singleton_append]

/-- Default constituents differ from what was there in the constituents only. -/
theorem assign_syllabify : assign c (syllabify t) = assign c t := by
  rw [syllabify, assign_syllabifyFrom, List.reverse_nil, List.nil_append]

theorem render_syllabify : render (syllabify t) = render t := by
  rw [← render_assign .unknown, assign_syllabify, render_assign]

variable {t} in
theorem syllabify_of_isPhone (h : t.any Element.isPhone = false) : syllabify t = t := by
  have hsyllabify : (syllabify t).any Element.isPhone = false := by
    rw [← any_isPhone_assign .unknown, assign_syllabify, any_isPhone_assign, h]
  rw [← assign_of_isPhone .unknown hsyllabify, assign_syllabify, assign_of_isPhone .unknown h]

end Transcription

end PhoneticSearch
