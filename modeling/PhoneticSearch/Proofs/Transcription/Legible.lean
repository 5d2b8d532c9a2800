import PhoneticSearch.Proofs.Transcription.Constituents
import PhoneticSearch.Proofs.Transcription.Tokens

/-!
# What a reader makes of a text

What is read is put together from written tokens.  A phone is spelled by its glyph and by
the diacritics and tied glyphs behind it (`Phone.Spelled`), and between its elements a
transcription has at most one word boundary, and none in front (`Legible`).  Every
transcription that is read is legible (`legible_of_read`); a phone is therefore determined
by its text, and its features by its base glyphs, as long as one table is used
(`eq_of_text_eq`).
-/

namespace PhoneticSearch

/-! ### Phones -/

/-- How a phone that has no constituent yet is spelled: by a glyph and the diacritics and
tied glyphs behind it, with the features that a table has for the glyphs. -/
inductive Phone.Spelled (table : FeatureTable) : Phone → Prop where
  | glyph {c : Char} (h : IsGlyph c) : Spelled table (.ofGlyph c (table.features c))
  | diacritic {p : Phone} (hp : Spelled table p) {c : Char} (h : isDiacritic c = true) :
    Spelled table (p.addDiacritic c)
  | tied {p : Phone} (hp : Spelled table p) {bar glyph : Char} (h : IsTied bar glyph) :
    Spelled table (p.addTied bar glyph (table.find? glyph))

/-- The diacritics of a phone do not matter to the rest of it. -/
theorem Phone.Spelled.bare {table : FeatureTable} {p : Phone} (h : p.Spelled table) :
    p.bare.Spelled table := by
  induction h with
  | glyph h => exact .glyph h
  | diacritic _ _ ih => exact ih
  | tied _ h ih => exact .tied ih h

/-- No white space is in a phone. -/
theorem Phone.Spelled.notBlank {table : FeatureTable} {p : Phone} (h : p.Spelled table) :
    ∀ c ∈ p.text, isBlank c = false := by
  induction h with
  | glyph h => exact List.forall_mem_singleton.mpr h.notBlank
  | diacritic _ h ih =>
    exact List.forall_mem_append.mpr
      ⟨ih, List.forall_mem_singleton.mpr (isBlank_of_isDiacritic h)⟩
  | tied _ h ih =>
    exact List.forall_mem_append.mpr ⟨ih, List.forall_mem_cons.mpr
      ⟨isBlank_of_isTieBar h.isTieBar, List.forall_mem_singleton.mpr h.notBlank⟩⟩

namespace Transcription

/-! ### Legible transcriptions -/

/-- Whether white space behind some elements, last first, is a word boundary. -/
def TakesBoundary (before : List Element) : Prop :=
  before ≠ [] ∧ before.head? ≠ some .wordBoundary

/-- Elements that a text can be read as, last first. -/
inductive Legible (table : FeatureTable) : List Element → Prop where
  | nil : Legible table []
  | phone {p : Phone} {before : List Element} (hp : (p.withConstituent .unknown).Spelled table)
    (h : Legible table before) : Legible table (.phone p :: before)
  | stress (s : Stress) {before : List Element} (h : Legible table before) :
    Legible table (.stress s :: before)
  | syllableBoundary {before : List Element} (h : Legible table before) :
    Legible table (.syllableBoundary :: before)
  | pause (l : Pause) {before : List Element} (h : Legible table before) :
    Legible table (.pause l :: before)
  | wordBoundary {before : List Element} (htakes : TakesBoundary before)
    (h : Legible table before) : Legible table (.wordBoundary :: before)

variable {table : FeatureTable}

theorem place_blank {before : List Element} (h : TakesBoundary before) :
    place table before .blank = .ok (.wordBoundary :: before) := by
  cases before with
  | nil => exact absurd rfl h.1
  | cons e before =>
    cases e with
    | wordBoundary => exact absurd rfl h.2
    | phone _ | stress _ | syllableBoundary | pause _ => rfl

/-- White space at the start of a text, and more white space, is nothing. -/
theorem place_blank_of_not {before : List Element} (h : ¬ TakesBoundary before) :
    place table before .blank = .ok before := by
  cases before with
  | nil => rfl
  | cons e before =>
    cases e with
    | wordBoundary => rfl
    | phone _ | stress _ | syllableBoundary | pause _ => simp [TakesBoundary] at h

/-- What a token does to the phone in front of it, if it belongs to that phone. -/
def Token.change? (table : FeatureTable) : Token → Option (Phone → Phone)
  | .constituent c => some (·.withConstituent c)
  | .tied bar c => some (·.addTied bar c (table.find? c))
  | .diacritic c => some (·.addDiacritic c)
  | _ => none

/-- A token that belongs to a phone has its place behind one, and changes that phone only. -/
theorem exists_phone_of_place {k : Token} {f : Phone → Phone} (hk : k.change? table = some f)
    {done after : List Element} (h : place table done k = .ok after) :
    ∃ p before, done = .phone p :: before ∧ after = .phone (f p) :: before := by
  cases done with
  | nil => cases k <;> cases hk <;> cases h
  | cons e before =>
    cases e with
    | phone p =>
      refine ⟨p, before, rfl, ?_⟩
      cases k <;> cases hk <;> cases h <;> rfl
    | stress _ | syllableBoundary | pause _ | wordBoundary => cases k <;> cases hk <;> cases h

/-- One more token leaves elements legible. -/
theorem Legible.place {done done' : List Element} (h : Legible table done) {w : Text} {k : Token}
    (hk : Writes w k) (hplace : Transcription.place table done k = .ok done') :
    Legible table done' := by
  cases hk with
  | blank =>
    by_cases htakes : TakesBoundary done
    · rw [place_blank htakes] at hplace
      cases hplace
      exact .wordBoundary htakes h
    · rw [place_blank_of_not htakes] at hplace
      cases hplace
      exact h
  | stress s => cases hplace; exact .stress s h
  | boundary => cases hplace; exact .syllableBoundary h
  | pause l => cases hplace; exact .pause l h
  | constituent _ =>
    obtain ⟨p, before, rfl, rfl⟩ := exists_phone_of_place rfl hplace
    cases h with
    | phone hp h => exact .phone hp h
  | tied htied =>
    obtain ⟨p, before, rfl, rfl⟩ := exists_phone_of_place rfl hplace
    cases h with
    | phone hp h => exact .phone (.tied hp htied) h
  | diacritic hdiacritic =>
    obtain ⟨p, before, rfl, rfl⟩ := exists_phone_of_place rfl hplace
    cases h with
    | phone hp h => exact .phone (.diacritic hp hdiacritic) h
  | glyph hglyph => cases hplace; exact .phone (.glyph hglyph) h

/-- What holds of the elements in front and stays true with each token holds in the end. -/
theorem placeAll_induction {P : List Element → Prop} : ∀ {tokens : List (Nat × Token)},
    (∀ k ∈ tokens, ∀ {done done' : List Element}, P done →
      Transcription.place table done k.2 = .ok done' → P done') →
    ∀ {done done' : List Element}, P done → placeAll table done tokens = .ok done' → P done' := by
  intro tokens
  induction tokens with
  | nil => intro _ done done' h hplaced; cases hplaced; exact h
  | cons k tokens ih =>
    intro hstep done done' h hplaced
    rw [placeAll] at hplaced
    split at hplaced
    · next next hplace =>
      have hnext : P next := hstep _ List.mem_cons_self h hplace
      exact ih (fun k hk => hstep k (List.mem_cons_of_mem _ hk)) hnext hplaced
    · cases hplaced

/-- The elements of a text are legible. -/
theorem legible_of_placeAll {text : Text} {done : List Element}
    (h : placeAll table [] (tokens text) = .ok done) : Legible table done := by
  refine placeAll_induction (fun k hk done done' hdone hplace => ?_) .nil h
  have hfaulty : k.2.isFaulty = false := by
    cases hkind : k.2 with
    | faulty f => rw [hkind] at hplace; cases hplace
    | _ => rfl
  obtain ⟨w, hw⟩ := exists_writes_of_mem_tokensFrom text hk hfaulty
  exact hdone.place hw hplace

theorem Legible.dropBoundary {done : List Element} (h : Legible table done) :
    Legible table (dropBoundary done) ∧ (dropBoundary done).head? ≠ some .wordBoundary := by
  cases h with
  | wordBoundary htakes h => exact ⟨h, htakes.2⟩
  | nil => exact ⟨.nil, by simp [Transcription.dropBoundary]⟩
  | phone hp h => exact ⟨.phone hp h, by simp [Transcription.dropBoundary]⟩
  | stress s h => exact ⟨.stress s h, by simp [Transcription.dropBoundary]⟩
  | syllableBoundary h => exact ⟨.syllableBoundary h, by simp [Transcription.dropBoundary]⟩
  | pause l h => exact ⟨.pause l h, by simp [Transcription.dropBoundary]⟩

theorem read_of_placeAll {text : Text} {done : List Element}
    (h : placeAll table [] (tokens text) = .ok done) :
    read table text = .ok (if (tokens text).any (·.2.isConstituent)
      then (dropBoundary done).reverse else syllabify (dropBoundary done).reverse) := by
  simp only [read, h]

theorem exists_placeAll_of_read {text : Text} {t : Transcription} (h : read table text = .ok t) :
    ∃ done, placeAll table [] (tokens text) = .ok done ∧
      t = if (tokens text).any (·.2.isConstituent) then (dropBoundary done).reverse
        else syllabify (dropBoundary done).reverse := by
  rw [read] at h
  simp only at h
  split at h
  · next done hplaced => exact ⟨done, hplaced, (Except.ok.inj h).symm⟩
  · cases h

theorem read_eq_error_iff {text : Text} {e : ReadError} : read table text = .error e ↔
    e.input = text ∧ placeAll table [] (tokens text) = .error (e.offset, e.fault) := by
  obtain ⟨input, offset, fault⟩ := e
  rw [read]
  cases h : placeAll table [] (tokens text) with
  | ok done => simp
  | error e => simp [Prod.ext_iff, eq_comm]

/-- A transcription that was read holds the elements of its text, in order, as they are or
with the default constituents. -/
theorem exists_legible_of_read {text : Text} {t : Transcription} (h : read table text = .ok t) :
    ∃ done done', placeAll table [] (tokens text) = .ok done' ∧ done = dropBoundary done' ∧
      Legible table done ∧ done.head? ≠ some .wordBoundary ∧
      t = if (tokens text).any (·.2.isConstituent) then done.reverse
        else syllabify done.reverse := by
  obtain ⟨done', hplaced, ht⟩ := exists_placeAll_of_read h
  obtain ⟨hlegible, hend⟩ := (legible_of_placeAll hplaced).dropBoundary
  exact ⟨_, done', hplaced, rfl, hlegible, hend, ht⟩

/-! ### Constituents do not matter -/

theorem head?_assign {c : Constituent} {t : List Element} :
    (assign c t).head? = some .wordBoundary ↔ t.head? = some .wordBoundary := by
  cases t with
  | nil => rfl
  | cons e t => cases e <;> simp [Element.withConstituent]

theorem takesBoundary_assign {c : Constituent} {t : List Element} :
    TakesBoundary (assign c t) ↔ TakesBoundary t := by
  rw [TakesBoundary, TakesBoundary, Ne, Ne, Ne, Ne, head?_assign, assign, List.map_eq_nil_iff]

/-- Whether elements are legible does not depend on the constituents of phones. -/
theorem legible_assign {c : Constituent} {t : List Element} :
    Legible table (assign c t) ↔ Legible table t := by
  induction t with
  | nil => rfl
  | cons e t ih =>
    constructor
    · intro h
      cases e with
      | phone p => cases h with | phone hp h => exact .phone hp (ih.mp h)
      | stress s => cases h with | stress _ h => exact .stress s (ih.mp h)
      | syllableBoundary => cases h with | syllableBoundary h => exact .syllableBoundary (ih.mp h)
      | pause l => cases h with | pause _ h => exact .pause l (ih.mp h)
      | wordBoundary =>
        cases h with
        | wordBoundary htakes h => exact .wordBoundary (takesBoundary_assign.mp htakes) (ih.mp h)
    · intro h
      cases h with
      | phone hp h => exact .phone hp (ih.mpr h)
      | stress s h => exact .stress s (ih.mpr h)
      | syllableBoundary h => exact .syllableBoundary (ih.mpr h)
      | pause l h => exact .pause l (ih.mpr h)
      | wordBoundary htakes h => exact .wordBoundary (takesBoundary_assign.mpr htakes) (ih.mpr h)

/-- A transcription that was read is legible, and no word boundary is at its end. -/
theorem legible_of_read {text : Text} {t : Transcription} (h : read table text = .ok t) :
    Legible table t.reverse ∧ t.reverse.head? ≠ some .wordBoundary := by
  obtain ⟨done, -, -, -, hlegible, hend, rfl⟩ := exists_legible_of_read h
  split
  · rw [List.reverse_reverse]
    exact ⟨hlegible, hend⟩
  · have hassign : assign .unknown (syllabify done.reverse).reverse = assign .unknown done := by
      rw [assign_reverse, assign_syllabify, assign_reverse, List.reverse_reverse]
    refine ⟨?_, fun hlast => hend ?_⟩
    · rw [← legible_assign, hassign, legible_assign]
      exact hlegible
    · rw [← head?_assign, hassign] at hlast
      exact head?_assign.mp hlast

/-- The phones of legible elements are spelled. -/
theorem Legible.spelled {table : FeatureTable} {done : List Element} (h : Legible table done) :
    ∀ p, .phone p ∈ done → (p.withConstituent .unknown).Spelled table := by
  induction h with
  | nil => intro p hp; cases hp
  | phone hp _ ih =>
    intro q hq
    rcases List.mem_cons.mp hq with hq | hq
    · obtain rfl := Element.phone.inj hq
      exact hp
    · exact ih q hq
  | stress _ _ ih | syllableBoundary _ ih | pause _ _ ih | wordBoundary _ _ ih =>
    intro q hq
    rcases List.mem_cons.mp hq with hq | hq
    · cases hq
    · exact ih q hq

/-- The phones of a transcription that was read are spelled. -/
theorem spelled_of_read {table : FeatureTable} {text : Text} {t : Transcription}
    (h : read table text = .ok t) {i : Nat} {p : Phone} (hp : t.phoneAt? i = some p) :
    (p.withConstituent .unknown).Spelled table := by
  have hmem : .phone p ∈ t := List.mem_of_getElem? (phoneAt?_eq_some.mp hp)
  exact (legible_of_read h).1.spelled p (List.mem_reverse.mpr hmem)

end Transcription

end PhoneticSearch
