import PhoneticSearch.Proofs.Transcription.Legible
import PhoneticSearch.Proofs.Transcription.Lettered

/-!
# Transcriptions are read back as they were written

A text reads as elements when it adds them to what stands in front of it, whatever that is
and whatever follows the text (`ReadsAs`).  Texts that read so can be put one behind the
other (`ReadsAs.trans`), and a legible transcription is put together from the texts of its
elements, with a letter behind each phone (`Legible.reads_lettered`) or without
(`Legible.reads_render`).

The letters of a syllabified text are those of the constituents, since the letter for the
members of a diphthong is only written behind nuclei (`ofLetter?_letterAt`).  Without
letters the default constituents are assigned again, which leave everything but the
constituents as it is.  Either way a transcription that was read is read back
(`read_back`).
-/

namespace PhoneticSearch.Transcription

variable {table : FeatureTable}

/-! ### Texts that read as elements -/

/-- Whether a text adds elements to those in front of it, last first, and whether it has
letters of constituents. -/
structure ReadsAs (table : FeatureTable) (text : Text) (before after : List Element)
    (annotated : Bool) : Prop where
  placed : ∀ offset rest, placeAll table before (tokensFrom offset 0 (text ++ rest)) =
    placeAll table after (tokensFrom (offset + text.length) 0 rest)
  annotates : ∀ offset rest, (tokensFrom offset 0 (text ++ rest)).any (·.2.isConstituent) =
    (annotated || (tokensFrom (offset + text.length) 0 rest).any (·.2.isConstituent))

namespace ReadsAs

variable {before middle after : List Element}

theorem nil (before : List Element) : ReadsAs table [] before before false :=
  ⟨fun _ _ => rfl, fun _ _ => rfl⟩

theorem piece {w : Text} {k : Token} (hw : Piece w k)
    (hplace : place table before k = .ok after) :
    ReadsAs table w before after k.isConstituent where
  placed offset rest := by
    rw [tokensFrom_piece hw, placeAll, hplace]
  annotates offset rest := by
    rw [tokensFrom_piece hw, List.any_cons]

theorem token {w : Text} {k : Token} (hw : Writes w k)
    (hplace : place table before k = .ok after) :
    ReadsAs table w before after k.isConstituent :=
  piece (.written hw) hplace

theorem trans {first second : Text} {a b : Bool} (h : ReadsAs table first before middle a)
    (h' : ReadsAs table second middle after b) :
    ReadsAs table (first ++ second) before after (a || b) where
  placed offset rest := by
    rw [List.append_assoc, h.placed, h'.placed, List.length_append, Nat.add_assoc]
  annotates offset rest := by
    rw [List.append_assoc, h.annotates, h'.annotates, List.length_append, Nat.add_assoc,
      Bool.or_assoc]

end ReadsAs

theorem dropBoundary_of_head? {done : List Element} (h : done.head? ≠ some .wordBoundary) :
    dropBoundary done = done := by
  cases done with
  | nil => rfl
  | cons e before =>
    cases e with
    | wordBoundary => exact absurd rfl h
    | phone _ | stress _ | syllableBoundary | pause _ => rfl

/-- A text that reads as elements is read as them, but for a word boundary at the end. -/
theorem ReadsAs.read_dropBoundary {text : Text} {done : List Element} {annotated : Bool}
    (h : ReadsAs table text [] done annotated) :
    Transcription.read table text = .ok (if annotated then (dropBoundary done).reverse
      else syllabify (dropBoundary done).reverse) := by
  have hplaced := h.placed 0 []
  have hannotates := h.annotates 0 []
  rw [List.append_nil] at hplaced hannotates
  have hdone : placeAll table [] (tokens text) = .ok done := hplaced
  have hany : (tokens text).any (·.2.isConstituent) = annotated := by
    rw [tokens, hannotates, tokensFrom, List.any_nil, Bool.or_false]
  rw [read_of_placeAll hdone, hany]

/-- A text that reads as elements is read as them. -/
theorem ReadsAs.read {text : Text} {done : List Element} {annotated : Bool}
    (h : ReadsAs table text [] done annotated) (hend : done.head? ≠ some .wordBoundary) :
    read table text = .ok (if annotated then done.reverse else syllabify done.reverse) := by
  rw [h.read_dropBoundary, dropBoundary_of_head? hend]

/-- A phone as it is written reads as the phone without its constituent. -/
theorem reads_spelled {p : Phone} (h : p.Spelled table)
    (before : List Element) : ReadsAs table p.text before (.phone p :: before) false := by
  induction h with
  | glyph hglyph => exact .token (.glyph hglyph) rfl
  | diacritic _ hdiacritic ih => exact ih.trans (.token (.diacritic hdiacritic) rfl)
  | tied _ htied ih => exact ih.trans (.token (.tied htied) rfl)

/-- Of two phones that are spelled with one table, those with the same text are the same. -/
theorem eq_of_text_eq {p q : Phone} (hp : p.Spelled table) (hq : q.Spelled table)
    (h : p.text = q.text) : p = q := by
  have hread := (reads_spelled hp []).placed 0 []
  rw [h, (reads_spelled hq []).placed 0 []] at hread
  simpa [tokensFrom, placeAll] using hread.symm

/-- An element that is no phone, as it is written, reads as that element. -/
theorem Legible.reads_head {e : Element} {before : List Element} (h : Legible table (e :: before))
    (he : e.isPhone = false) : ReadsAs table e.render before (e :: before) false := by
  cases h with
  | phone _ _ => cases he
  | stress s _ => exact .token (.stress s) rfl
  | syllableBoundary _ => exact .token .boundary rfl
  | pause l _ => exact .token (.pause l) rfl
  | wordBoundary htakes _ => exact .token .blank (place_blank htakes)

/-! ### With a letter behind each phone -/

/-- A legible transcription with letters of the constituents of its phones reads as
itself. -/
theorem Legible.reads_lettered {letter : Nat → Phone → Char} {done : List Element}
    (h : Legible table done) (hletter : ∀ i p, phoneAt? done.reverse i = some p →
      Constituent.ofLetter? (letter i p) = some p.constituent) :
    ReadsAs table (lettered letter done.reverse) [] done (done.any Element.isPhone) := by
  induction done with
  | nil => exact .nil []
  | cons e before ih =>
    have hbefore : Legible table before := by cases h <;> assumption
    have hletters : ∀ i p, phoneAt? before.reverse i = some p →
        Constituent.ofLetter? (letter i p) = some p.constituent := by
      intro i p hp
      have hat := phoneAt?_eq_some.mp hp
      have hlt := (List.getElem?_eq_some_iff.mp hat).1
      refine hletter i p (phoneAt?_eq_some.mpr ?_)
      rwa [List.reverse_cons, List.getElem?_append_left hlt]
    have hfront := ih hbefore hletters
    rw [List.reverse_cons, List.any_cons, Bool.or_comm]
    cases hphone : e.isPhone with
    | false =>
      rw [lettered_append, lettered_of_isPhone _ hphone]
      exact hfront.trans (h.reads_head hphone)
    | true =>
      cases h with
      | @phone p _ hp _ =>
        have hlast :
            Constituent.ofLetter? (letter before.reverse.length p) = some p.constituent := by
          refine hletter _ _ (phoneAt?_eq_some.mpr ?_)
          rw [List.reverse_cons, List.getElem?_concat_length]
        rw [lettered_append, lettered_phone, Nat.add_zero]
        exact hfront.trans
          ((reads_spelled hp before).trans (.token (.constituent hlast) rfl))
      | stress _ _ | syllableBoundary _ | pause _ _ | wordBoundary _ _ => cases hphone

/-- The letter behind a phone is one of its constituent. -/
theorem ofLetter?_letterAt {t : Transcription} {i : Nat} {p : Phone} (h : t.phoneAt? i = some p)
    (syllables : List Syllable) :
    Constituent.ofLetter? (t.letterAt syllables i p) = some p.constituent := by
  rw [letterAt]
  split
  · next hdiphthong =>
    -- Both members of a diphthong are nuclei.
    have hnucleus : t.isNucleusAt i = true := by
      simp only [isDiphthongAt, Bool.or_eq_true, Bool.and_eq_true, decide_eq_true_eq] at hdiphthong
      rcases hdiphthong with hfirst | ⟨hpos, hsecond⟩
      · exact hfirst.1.1
      · have hat := hsecond.1.2
        rwa [Nat.sub_add_cancel hpos] at hat
    have hconstituent : p.constituent = .nucleus := by simpa [isNucleusAt, h] using hnucleus
    rw [hconstituent]
    rfl
  · exact Constituent.ofLetter?_letter p.constituent

/-! ### Without letters -/

/-- Whether no element has a constituent yet. -/
def Unassigned (done : List Element) : Prop := assign .unknown done = done

theorem unassigned_cons {e : Element} {before : List Element} :
    Unassigned (e :: before) ↔ e.withConstituent .unknown = e ∧ Unassigned before := by
  rw [Unassigned, assign_cons, List.cons.injEq]
  exact Iff.rfl

theorem unassigned_phone {p : Phone} {before : List Element} :
    Unassigned (.phone p :: before) ↔ p.withConstituent .unknown = p ∧ Unassigned before := by
  rw [unassigned_cons, Element.withConstituent, Element.phone.injEq]

/-- Tokens that are no letters of constituents assign none. -/
theorem Unassigned.place {done done' : List Element} (h : Unassigned done) {k : Token}
    (hk : k.isConstituent = false) (hplace : Transcription.place table done k = .ok done') :
    Unassigned done' := by
  cases k with
  | constituent c => cases hk
  | faulty f => cases hplace
  | stress s => cases hplace; exact unassigned_cons.mpr ⟨rfl, h⟩
  | boundary => cases hplace; exact unassigned_cons.mpr ⟨rfl, h⟩
  | pause l => cases hplace; exact unassigned_cons.mpr ⟨rfl, h⟩
  | glyph c => cases hplace; exact unassigned_cons.mpr ⟨rfl, h⟩
  | blank =>
    by_cases htakes : TakesBoundary done
    · rw [place_blank htakes] at hplace
      cases hplace
      exact unassigned_cons.mpr ⟨rfl, h⟩
    · rw [place_blank_of_not htakes] at hplace
      cases hplace
      exact h
  | tied bar glyph =>
    obtain ⟨p, before, rfl, rfl⟩ := exists_phone_of_place rfl hplace
    obtain ⟨hp, hbefore⟩ := unassigned_phone.mp h
    have hadded : (p.addTied bar glyph (table.find? glyph)).withConstituent .unknown =
        p.addTied bar glyph (table.find? glyph) :=
      congrArg (Phone.addTied · bar glyph (table.find? glyph)) hp
    exact unassigned_phone.mpr ⟨hadded, hbefore⟩
  | diacritic c =>
    obtain ⟨p, before, rfl, rfl⟩ := exists_phone_of_place rfl hplace
    obtain ⟨hp, hbefore⟩ := unassigned_phone.mp h
    have hadded : (p.addDiacritic c).withConstituent .unknown = p.addDiacritic c :=
      congrArg (Phone.addDiacritic · c) hp
    exact unassigned_phone.mpr ⟨hadded, hbefore⟩

theorem Unassigned.dropBoundary {done : List Element} (h : Unassigned done) :
    Unassigned (dropBoundary done) := by
  cases done with
  | nil => exact h
  | cons e before =>
    cases e with
    | wordBoundary => exact (unassigned_cons.mp h).2
    | phone _ | stress _ | syllableBoundary | pause _ => exact h

theorem render_reverse_cons (e : Element) (before : List Element) :
    render (e :: before).reverse = render before.reverse ++ e.render := by
  rw [List.reverse_cons, render_append, render_cons, render_nil, List.append_nil]

/-- A legible transcription whose phones have no constituents reads as itself. -/
theorem Legible.reads_render {done : List Element} (h : Legible table done)
    (hunassigned : Unassigned done) : ReadsAs table (render done.reverse) [] done false := by
  induction done with
  | nil => exact .nil []
  | cons e before ih =>
    have hbefore : Legible table before := by cases h <;> assumption
    have hfront := ih hbefore (unassigned_cons.mp hunassigned).2
    rw [render_reverse_cons]
    cases hphone : e.isPhone with
    | false => exact hfront.trans (h.reads_head hphone)
    | true =>
      cases h with
      | @phone p _ hp _ =>
        rw [(unassigned_phone.mp hunassigned).1] at hp
        exact hfront.trans (reads_spelled hp before)
      | stress _ _ | syllableBoundary _ | pause _ _ | wordBoundary _ _ => cases hphone

/-! ### Reading back -/

/-- A transcription that was read is read back from its syllabified text, and where no
constituents were written, from its text as well. -/
theorem read_back (table : FeatureTable) {text : Text} {t : Transcription}
    (h : read table text = .ok t) :
    read table t.syllabified = .ok t ∧
      ((∀ k ∈ tokens text, k.2.isConstituent = false) → read table t.render = .ok t) := by
  constructor
  · obtain ⟨hlegible, hend⟩ := legible_of_read h
    have hletter : ∀ i p, phoneAt? t.reverse.reverse i = some p →
        Constituent.ofLetter? (t.letterAt t.syllables i p) = some p.constituent := by
      intro i p hp
      rw [List.reverse_reverse] at hp
      exact ofLetter?_letterAt hp t.syllables
    have hread := (hlegible.reads_lettered hletter).read hend
    rw [List.reverse_reverse, ← syllabified_eq_lettered] at hread
    rw [hread]
    -- Without phones there is no letter, and nothing to assign.
    cases hany : t.reverse.any Element.isPhone with
    | true => rfl
    | false =>
      rw [List.any_reverse] at hany
      rw [if_neg Bool.false_ne_true, syllabify_of_isPhone hany]
  · intro hletters
    obtain ⟨done, done', hplaced, rfl, hlegible, hend, ht⟩ := exists_legible_of_read h
    have hunassigned : Unassigned done' :=
      placeAll_induction (fun k hk _ _ hdone => hdone.place (hletters k hk))
        (show Unassigned [] from rfl) hplaced
    have hread := (hlegible.reads_render hunassigned.dropBoundary).read hend
    have hany : (tokens text).any (·.2.isConstituent) = false := by simpa using hletters
    rw [hany] at ht
    rw [if_neg Bool.false_ne_true] at ht hread
    rw [ht, render_syllabify, hread]

theorem read_back_affricate : ∃ t, read .builtin "ˈt͡ʃʰaɪ.no  (..) sk͡pi".toList = .ok t ∧
    t.syllabified = "ˈt͡ʃʰ:Oa:Dɪ:D.n:Oo:N (..) s:Ok͡p:Oi:N".toList ∧
    read .builtin t.syllabified = .ok t ∧ read .builtin t.render = .ok t := by
  have hread : read .builtin "ˈt͡ʃʰaɪ.no  (..) sk͡pi".toList = .ok _ := rfl
  have hletters : ∀ k ∈ tokens "ˈt͡ʃʰaɪ.no  (..) sk͡pi".toList, k.2.isConstituent = false := by
    decide
  have hback := read_back .builtin hread
  exact ⟨_, hread, by decide +kernel, hback.1, hback.2 hletters⟩

end PhoneticSearch.Transcription
