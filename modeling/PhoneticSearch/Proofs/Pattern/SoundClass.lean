import PhoneticSearch.Pattern.Phonex.SymbolMap
import PhoneticSearch.Pattern.Sequence.Spelling
import PhoneticSearch.Proofs.Transcription.Legible

/-!
# The two ways to write sound classes

The sound classes of a transcription are written in two ways: the symbol map of glides,
consonants and vowels renders it element by element, and sequence patterns are matched against
its spelling.  Both write glides alike, but the map asks for a consonant before it asks for a
vowel, and the spelling the other way round.

So the two agree, but for the marks of stress and syllables that the rendering has more, if
and only if no phone is a vowel and a consonant at once (`symbolOf_eq_iff`).  No glyph of the
builtin table is both; a phone becomes both when a vowel glyph is tied to a consonant glyph and
no glide is among its glyphs (`Phone.Spelled.contains_features`).
-/

namespace PhoneticSearch

/-! ### Features of phones and of their glyphs -/

/-- Only an affricate gets a feature that none of the tied glyphs has. -/
theorem Phone.contains_tiedFeatures {f : Feature} (hf : f ≠ .affricate) (features : FeatureSet)
    (extra : Option FeatureSet) : (tiedFeatures features extra).contains f =
      (features.contains f || (extra.getD .empty).contains f) := by
  cases extra with
  | none => simp [tiedFeatures]
  | some extra =>
    simp only [tiedFeatures]
    split
    · simp [hf.symm]
    · simp

/-- A phone has a feature if and only if one of its glyphs has it. -/
theorem Phone.Spelled.contains_features {table : FeatureTable} {p : Phone} (h : p.Spelled table)
    (hbars : ∀ c, isTieBar c = true → table.features c = .empty) {f : Feature}
    (hf : f ≠ .affricate) :
    p.features.contains f = p.base.any fun c => (table.features c).contains f := by
  induction h with
  | glyph _ => simp [Phone.ofGlyph]
  | diacritic _ _ ih => exact ih
  | @tied p _ bar glyph h ih =>
    have hbase : (p.addTied bar glyph (table.find? glyph)).base = p.base ++ [bar, glyph] := rfl
    have hfeatures : (p.addTied bar glyph (table.find? glyph)).features.contains f =
        (p.features.contains f || (table.features glyph).contains f) :=
      contains_tiedFeatures hf _ _
    rw [hbase, hfeatures, ih, List.any_append]
    simp [hbars bar h.isTieBar]

/-- Whether a phone has a glyph that the builtin table gives a feature. -/
def Phone.HasGlyph (p : Phone) (f : Feature) : Prop :=
  ∃ c ∈ p.base, (FeatureTable.builtin.features c).contains f = true

/-- Whether a phone has a vowel glyph tied to a consonant glyph, and no glide among its
glyphs. -/
def Phone.TiesVowelToConsonant (p : Phone) : Prop :=
  p.HasGlyph .vowel ∧ p.HasGlyph .consonant ∧ ¬ p.HasGlyph .glide

namespace Phone

theorem hasGlyph_iff {p : Phone} {f : Feature} :
    p.HasGlyph f ↔ (p.base.any fun c => (FeatureTable.builtin.features c).contains f) = true := by
  simp [HasGlyph]

instance (p : Phone) (f : Feature) : Decidable (p.HasGlyph f) :=
  decidable_of_iff _ hasGlyph_iff.symm

instance (p : Phone) : Decidable p.TiesVowelToConsonant :=
  inferInstanceAs (Decidable (_ ∧ _ ∧ ¬ _))

/-- The classes of a phone that was read with the builtin table are those of its glyphs. -/
theorem contains_iff_hasGlyph {p : Phone}
    (h : (p.withConstituent .unknown).Spelled FeatureTable.builtin) {f : Feature}
    (hf : f ≠ .affricate) : p.features.contains f = true ↔ p.HasGlyph f := by
  have hbars : ∀ c, isTieBar c = true → FeatureTable.builtin.features c = .empty := by
    intro c hc
    rcases eq_of_isTieBar hc with rfl | rfl <;> decide +kernel
  rw [hasGlyph_iff]
  exact Bool.eq_iff_iff.mp (h.contains_features hbars hf)

theorem isVowel_and_isConsonant_iff {p : Phone}
    (h : (p.withConstituent .unknown).Spelled FeatureTable.builtin) :
    (p.isVowel = true ∧ p.isConsonant = true) ↔ p.TiesVowelToConsonant := by
  rw [TiesVowelToConsonant, ← contains_iff_hasGlyph h (by decide),
    ← contains_iff_hasGlyph h (by decide), ← contains_iff_hasGlyph h (by decide)]
  simp only [isVowel, isGlide, isConsonant, Bool.and_eq_true, Bool.not_eq_true',
    Bool.not_eq_true]
  constructor
  · rintro ⟨⟨hvowel, hglide⟩, hconsonant⟩
    exact ⟨hvowel, hconsonant, hglide⟩
  · rintro ⟨hvowel, hconsonant, hglide⟩
    exact ⟨⟨hvowel, hglide⟩, hconsonant⟩

/-- No glyph of the builtin table is a vowel and a consonant. -/
theorem not_tiesVowelToConsonant_of_single {p : Phone} (h : p.base.length = 1) :
    ¬ p.TiesVowelToConsonant := by
  obtain ⟨c, h⟩ := List.length_eq_one_iff.mp h
  have hentries : ∀ entry ∈ FeatureTable.builtin.entries,
      ¬ (entry.2.contains .vowel = true ∧ entry.2.contains .consonant = true) := by
    decide +kernel
  rintro ⟨⟨v, hv, hvowel⟩, ⟨k, hk, hconsonant⟩, -⟩
  rw [h] at hv hk
  rw [List.mem_singleton.mp hv, FeatureTable.features] at hvowel
  rw [List.mem_singleton.mp hk, FeatureTable.features] at hconsonant
  cases hfind : FeatureTable.builtin.find? c with
  | none => rw [hfind] at hvowel; simp at hvowel
  | some features =>
    rw [hfind] at hvowel hconsonant
    obtain ⟨before, after, hentry, -⟩ := List.lookup_eq_some_iff.mp hfind
    have hmem : (c, features) ∈ FeatureTable.builtin.entries := by rw [hentry]; simp
    exact hentries _ hmem ⟨hvowel, hconsonant⟩

end Phone

/-! ### Rendering and spelling -/

/-- A text without the marks of stress and of syllable boundaries. -/
def Text.withoutMarks (t : Text) : Text := t.filter (· ∉ ['ˈ', 'ˌ', '.'])

namespace Sequence

/-- The letters of an element. -/
def letters : Element → Text
  | .phone p => [soundClassOf p]
  | e => if e.isWordBreak then [' '] else []

theorem map_letter_soundClassSymbol (t : Transcription) : ∀ n : Nat,
    ((t.zipIdx n).filterMap fun x => soundClassSymbol x.1 x.2).map (·.letter) =
      t.flatMap letters := by
  induction t with
  | nil => intro n; rfl
  | cons e t ih =>
    intro n
    rw [List.zipIdx_cons, List.flatMap_cons, ← ih (n + 1)]
    cases e <;> rfl

theorem spelling_soundClass (t : Transcription) : spelling .soundClass t = t.flatMap letters :=
  map_letter_soundClassSymbol t 0

/-- The symbol of a phone is its letter unless the phone is a vowel and a consonant. -/
theorem symbolOf_eq_iff {p : Phone} (h : p.isGlide ∨ p.isVowel ∨ p.isConsonant) :
    SymbolMap.soundClasses.symbolOf p = [soundClassOf p] ↔
      ¬ (p.isVowel = true ∧ p.isConsonant = true) := by
  have hglide : p.isGlide = true → p.isVowel = false := fun hg => by simp [Phone.isVowel, hg]
  unfold SymbolMap.symbolOf SymbolMap.soundClasses soundClassOf
  cases hg : p.isGlide with
  | true => simp [Phonex.PhoneMatcher.accepts, hg, hglide hg]
  | false =>
    cases hv : p.isVowel with
    | true => cases hc : p.isConsonant <;> simp [Phonex.PhoneMatcher.accepts, hg, hv, hc]
    | false =>
      have hc : p.isConsonant = true := by simpa [hg, hv] using h
      simp [Phonex.PhoneMatcher.accepts, hg, hc]

/-- The symbol of a phone is a single letter, and no mark. -/
theorem exists_symbolOf_eq {p : Phone} (h : p.isGlide ∨ p.isVowel ∨ p.isConsonant) :
    ∃ c, SymbolMap.soundClasses.symbolOf p = [c] ∧ Text.withoutMarks [c] = [c] := by
  unfold SymbolMap.symbolOf SymbolMap.soundClasses
  by_cases hg : p.isGlide = true
  · exact ⟨'G', by simp [Phonex.PhoneMatcher.accepts, hg], rfl⟩
  · by_cases hc : p.isConsonant = true
    · exact ⟨'C', by simp [Phonex.PhoneMatcher.accepts, hg, hc], rfl⟩
    · have hv : p.isVowel = true := by simpa [hg, hc] using h
      exact ⟨'V', by simp [Phonex.PhoneMatcher.accepts, hg, hc, hv], rfl⟩

/-- An element with a sound class where it is a phone, and no pause. -/
def Classed : Element → Prop
  | .phone p => p.isGlide ∨ p.isVowel ∨ p.isConsonant
  | .pause _ => False
  | _ => True

theorem length_withoutMarks_renderElement {e : Element} (h : Classed e) :
    (Text.withoutMarks (SymbolMap.soundClasses.renderElement e)).length = (letters e).length := by
  cases e with
  | phone p =>
    obtain ⟨c, hc, hmark⟩ := exists_symbolOf_eq h
    rw [SymbolMap.renderElement, hc, hmark]
    rfl
  | stress s => cases s <;> rfl
  | syllableBoundary => rfl
  | wordBoundary => rfl
  | pause l => exact h.elim

theorem withoutMarks_renderElement_eq_iff {e : Element} (h : Classed e) :
    Text.withoutMarks (SymbolMap.soundClasses.renderElement e) = letters e ↔
      ∀ p, e = .phone p → ¬ (p.isVowel = true ∧ p.isConsonant = true) := by
  cases e with
  | phone p =>
    obtain ⟨c, hc, hmark⟩ := exists_symbolOf_eq h
    have hsymbol : Text.withoutMarks (SymbolMap.soundClasses.renderElement (.phone p)) =
        SymbolMap.soundClasses.symbolOf p := by
      rw [SymbolMap.renderElement, hc, hmark]
    rw [hsymbol]
    simp only [letters, Element.phone.injEq, forall_eq']
    exact symbolOf_eq_iff h
  | stress s => cases s <;> simp [SymbolMap.renderElement, Element.render, letters,
      Text.withoutMarks, Stress.glyph, Element.isWordBreak]
  | syllableBoundary => simp [SymbolMap.renderElement, Element.render, letters,
      Text.withoutMarks, Element.isWordBreak]
  | wordBoundary => simp [SymbolMap.renderElement, Element.render, letters,
      Text.withoutMarks, Element.isWordBreak]
  | pause l => exact h.elim

/-- Rows written by parts of the same lengths are the same if and only if the parts are. -/
theorem flatMap_eq_flatMap_iff {α β : Type} {f g : α → List β} {l : List α}
    (hlength : ∀ x ∈ l, (f x).length = (g x).length) :
    l.flatMap f = l.flatMap g ↔ ∀ x ∈ l, f x = g x := by
  induction l with
  | nil => simp
  | cons x l ih =>
    rw [List.forall_mem_cons] at hlength
    rw [List.flatMap_cons, List.flatMap_cons, List.forall_mem_cons, ← ih hlength.2]
    constructor
    · intro h
      exact List.append_inj h hlength.1
    · rintro ⟨hx, hl⟩
      rw [hx, hl]

/-- **Rendering and spelling of sound classes.**  For every text that is read as a transcription
without pauses, and with a sound class for each phone, the rendering without its marks of stress
and of syllable boundaries is the spelling if and only if no phone ties a vowel to a consonant
without a glide.  So both agree on every text without tied glyphs. -/
theorem withoutMarks_render_eq_spelling_iff {text : Text} {t : Transcription}
    (hread : Transcription.read .builtin text = .ok t) (hpauses : ∀ l, .pause l ∉ t)
    (hclassed : ∀ p ∈ t.phones, p.isGlide ∨ p.isVowel ∨ p.isConsonant) :
    (Text.withoutMarks (SymbolMap.soundClasses.render t) = spelling .soundClass t ↔
      ∀ p ∈ t.phones, ¬ p.TiesVowelToConsonant) ∧
    ((∀ p ∈ t.phones, p.base.length = 1) →
      Text.withoutMarks (SymbolMap.soundClasses.render t) = spelling .soundClass t) := by
  have hphone : ∀ p, p ∈ t.phones ↔ .phone p ∈ t := by
    intro p
    rw [Transcription.phones, List.mem_filterMap]
    constructor
    · rintro ⟨e, he, hp⟩
      cases e <;> simp_all [Element.phone?]
    · exact fun hp => ⟨_, hp, rfl⟩
  have helements : ∀ e ∈ t, Classed e := by
    intro e he
    cases e with
    | phone p => exact hclassed p ((hphone p).mpr he)
    | pause l => exact hpauses l he
    | _ => trivial
  have hrender : Text.withoutMarks (SymbolMap.soundClasses.render t) =
      t.flatMap fun e => Text.withoutMarks (SymbolMap.soundClasses.renderElement e) :=
    List.filter_flatMap ..
  -- Each element is written by as many letters in both, so that they agree element by element.
  have hiff : Text.withoutMarks (SymbolMap.soundClasses.render t) = spelling .soundClass t ↔
      ∀ p ∈ t.phones, ¬ p.TiesVowelToConsonant := by
    rw [hrender, spelling_soundClass, flatMap_eq_flatMap_iff
      fun e he => length_withoutMarks_renderElement (helements e he)]
    have hspelled := (Transcription.legible_of_read hread).1.spelled
    constructor
    · intro h p hp hties
      have hp := (hphone p).mp hp
      have hboth := (Phone.isVowel_and_isConsonant_iff
        (hspelled p (List.mem_reverse.mpr hp))).mpr hties
      exact (withoutMarks_renderElement_eq_iff (helements _ hp)).mp (h _ hp) p rfl hboth
    · intro h e he
      rw [withoutMarks_renderElement_eq_iff (helements e he)]
      rintro p rfl hboth
      exact h p ((hphone p).mpr he) ((Phone.isVowel_and_isConsonant_iff
        (hspelled p (List.mem_reverse.mpr he))).mp hboth)
  refine ⟨hiff, fun hsingle => hiff.mpr fun p hp => ?_⟩
  exact Phone.not_tiesVowelToConsonant_of_single (hsingle p hp)

theorem withoutMarks_render_eq_spelling_witch : ∃ t,
    Transcription.read .builtin "ˈt͡ʃæ.ji kæt".toList = .ok t ∧
    (∀ l, .pause l ∉ t) ∧ (∀ p ∈ t.phones, p.isGlide ∨ p.isVowel ∨ p.isConsonant) ∧
    (∀ p ∈ t.phones, ¬ p.TiesVowelToConsonant) ∧
    SymbolMap.soundClasses.render t = "ˈCV.GV CVC".toList ∧
    Text.withoutMarks (SymbolMap.soundClasses.render t) = spelling .soundClass t := by
  have hread : Transcription.read .builtin "ˈt͡ʃæ.ji kæt".toList = .ok _ := rfl
  refine ⟨_, hread, ?pauses, ?classed, ?ties, ?rendered,
    (withoutMarks_render_eq_spelling_iff hread ?pauses ?classed).1.mpr ?ties⟩
  case pauses => intro l; cases l <;> decide +kernel
  all_goals decide +kernel

/-- The phone of `t` tied to `a` is a consonant where it is rendered and a vowel where it is
spelled. -/
theorem withoutMarks_render_ne_spelling : ∃ t,
    Transcription.read .builtin "t͡a".toList = .ok t ∧
    (∀ l, .pause l ∉ t) ∧ (∀ p ∈ t.phones, p.isGlide ∨ p.isVowel ∨ p.isConsonant) ∧
    Text.withoutMarks (SymbolMap.soundClasses.render t) = ['C'] ∧
    spelling .soundClass t = ['V'] :=
  ⟨_, rfl, by intro l; cases l <;> decide +kernel, by decide +kernel, by decide +kernel,
    by decide +kernel⟩

end Sequence

end PhoneticSearch
