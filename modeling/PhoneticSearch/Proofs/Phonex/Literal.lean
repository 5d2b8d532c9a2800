import PhoneticSearch.Proofs.Phonex.Expressions
import PhoneticSearch.Proofs.Phonex.Search
import PhoneticSearch.Proofs.Transcription.Extent

/-!
# Phones as expressions

A text that is read as phones alone is, where none of the phones starts with a sign of the
grammar, an expression as well.  The two readers cut it in the same places: a phone is a
glyph with marks behind it (`Phone.Spelled.exists_marks`), and the longest row of marks ends
where the next phone starts.  What the expression matches is a row of phones that are written
like these, or that have their base glyphs where these have no diacritics.
-/

namespace PhoneticSearch

/-- A phone as it is spelled is a glyph with marks, and its base is the glyph with the tied
ones. -/
theorem Phone.Spelled.exists_marks {table : FeatureTable} {p : Phone} (h : p.Spelled table) :
    ∃ c w tied, p.text = c :: w ∧ p.base = c :: tied ∧ IsGlyph c ∧
      Phonex.Grammar.Marks w tied := by
  induction h with
  | glyph h => exact ⟨_, [], [], rfl, rfl, h, .nil⟩
  | @diacritic p _ d hd ih =>
    obtain ⟨c, w, tied, htext, hbase, hc, hw⟩ := ih
    refine ⟨c, w ++ [d], tied, ?_, hbase, hc, ?_⟩
    · rw [Phone.addDiacritic, htext, List.cons_append]
    · simpa using hw.append (.diacritic hd .nil)
  | @tied p _ bar glyph hbar ih =>
    obtain ⟨c, w, tied, htext, hbase, hc, hw⟩ := ih
    refine ⟨c, w ++ [bar, glyph], tied ++ [bar, glyph], ?_, ?_, hc,
      hw.append (.tied hbar.isTieBar .nil)⟩
    · rw [Phone.addTied, htext, List.cons_append]
    · rw [Phone.addTied, hbase, List.cons_append]

namespace Phonex

open Grammar

/-! ### One phone -/

/-- The signs of the grammar that a phone may start with. -/
def phoneSigns : List Char := ['\\', '\x7b', '\x7d', '[', ']', '|', '?', '*', '+', '^', '$']

/-- The matcher that a phone is where it stands in an expression. -/
def literalOf (p : Phone) : PhoneMatcher :=
  if p.hasDiacritics then .exact p.text else .base p.text

/-- Whether a phone is written like another one, or has its base glyphs if that one has no
diacritics. -/
def IsLike (p q : Phone) : Prop := if p.hasDiacritics then q.text = p.text else q.base = p.text

instance (p q : Phone) : Decidable (IsLike p q) :=
  inferInstanceAs (Decidable (if p.hasDiacritics then q.text = p.text else q.base = p.text))

theorem accepts_literalOf {p q : Phone} : (literalOf p).accepts q = true ↔ IsLike p q := by
  unfold literalOf IsLike
  split <;> exact beq_iff_eq

theorem isLike_self (p : Phone) : IsLike p p := by
  unfold IsLike
  split
  · rfl
  · next h => exact (by simpa [Phone.hasDiacritics] using h : p.text = p.base).symm

/-! ### Phones in a row -/

/-- Whether no mark is in front of a text. -/
def NoMark (t : Text) : Prop := ∀ c ∈ t.head?, isTieBar c = false ∧ isDiacritic c = false

theorem marks_of_noMark {t : Text} (h : NoMark t) : marks t = ([], []) := by
  cases t with
  | nil => rfl
  | cons c t => exact marks_other (h c rfl).1 (h c rfl).2 t

theorem noMark_blanks {w : Text} (hw : Blanks w) : NoMark w := by
  intro c hc
  have hblank := hw c (List.mem_of_mem_head? hc)
  refine ⟨Bool.eq_false_iff.mpr fun h => ?_, Bool.eq_false_iff.mpr fun h => ?_⟩
  · simp [isBlank_of_isTieBar h] at hblank
  · simp [isBlank_of_isDiacritic h] at hblank

/-- A phone as it is read, which does not start with a sign of the grammar. -/
structure IsLiteral (table : FeatureTable) (p : Phone) : Prop where
  spelled : (p.withConstituent .unknown).Spelled table
  first : ∀ c ∈ p.text.head?, c ∉ phoneSigns

variable {table : FeatureTable} {p : Phone} {ps : List Phone}

theorem noMark_phones (h : ∀ p ∈ ps, IsLiteral table p) {trail : Text} (htrail : Blanks trail) :
    NoMark (ps.flatMap Phone.text ++ trail) := by
  cases ps with
  | nil => exact noMark_blanks htrail
  | cons p ps =>
    obtain ⟨c, w, tied, htext, -, hc, -⟩ := (h p List.mem_cons_self).spelled.exists_marks
    have htext : p.text = c :: w := htext
    rw [List.flatMap_cons, htext]
    intro d hd
    obtain rfl := Option.some.inj hd
    exact ⟨hc.notTieBar, hc.notDiacritic⟩

/-- A phone is a matcher where no mark is behind it. -/
theorem IsLiteral.matcher (h : IsLiteral table p) {rest : Text} (hrest : NoMark rest) :
    Matcher p.text rest (literalOf p) := by
  obtain ⟨c, w, tied, htext, hbase, hc, hw⟩ := h.spelled.exists_marks
  have htext : p.text = c :: w := htext
  have hbase : p.base = c :: tied := hbase
  have hstarts : StartsGlyph c := by
    refine ⟨?_, hc.notBlank, hc.notDiacritic⟩
    have hfirst := h.first c (by rw [htext]; rfl)
    have hsign := hc.notSign
    simp only [phoneSigns, List.mem_cons, List.not_mem_nil, or_false, not_or] at hfirst hsign ⊢
    simp only [hfirst, hsign, not_false_eq_true, and_self]
  have hlongest : LongestMarks w rest tied := by
    rw [longestMarks_iff, hw.found, marks_of_noMark hrest, List.append_nil, List.append_nil]
  have hglyph : literalOf p = glyphOf c w tied := by
    rw [literalOf, Phone.hasDiacritics, glyphOf, htext, hbase]
    by_cases hmarks : w = tied <;> simp [hmarks]
  rw [hglyph, htext]
  exact .plain (.glyph hstarts hlongest)

/-- Phones in a row, with white space around them, are a branch. -/
theorem branch_phones {trail : Text} (htrail : Blanks trail) : ∀ {ps : List Phone} {lead : Text},
    (∀ p ∈ ps, IsLiteral table p) → Blanks lead →
      ∃ w, w = lead ++ (ps.flatMap Phone.text ++ trail) ∧
        Branch w [] (ps.map fun p => .element (.phone (literalOf p)))
  | [], lead, _, hlead => ⟨_, rfl, .last (List.forall_mem_append.mpr ⟨hlead, htrail⟩)⟩
  | p :: ps, lead, h, hlead => by
    obtain ⟨hp, hps⟩ := List.forall_mem_cons.mp h
    have hnone : Blanks [] := nofun
    obtain ⟨w, hw, hbranch⟩ := branch_phones htrail hps hnone
    refine ⟨lead ++ (p.text ++ w), ?_, .item hlead (.once (.matcher (hp.matcher ?_))) hbranch⟩
    · rw [hw, List.nil_append, List.flatMap_cons, List.append_assoc]
    · rw [hw, List.append_nil, List.nil_append]
      exact noMark_phones hps htrail

/-! ### What a row of phones matches -/

/-- A sequence of single elements matches up to the end the elements that it accepts one
after the other. -/
theorem sequenceMeaning_elements {elements : List Element} : ∀ {ms : List ElementMatcher}
    {p : Nat}, p ≤ elements.length →
    (sequenceMeaning elements (ms.map .element) p elements.length ↔
      List.Forall₂ (fun m e => m.accepts e = true) ms (elements.drop p))
  | [], p, hp => by
    rw [List.map_nil, List.forall₂_nil_left_iff, List.drop_eq_nil_iff]
    exact ⟨fun h => Nat.le_of_eq (Eq.symm h), fun h => Nat.le_antisymm hp h⟩
  | m :: ms, p, hp => by
    rw [List.map_cons, List.forall₂_cons_left_iff]
    constructor
    · rintro ⟨_, ⟨rfl, e, he, haccepts⟩, hrest⟩
      obtain ⟨hlt, rfl⟩ := List.getElem?_eq_some_iff.mp he
      exact ⟨_, _, haccepts, (sequenceMeaning_elements hlt).mp hrest,
        List.drop_eq_getElem_cons hlt⟩
    · rintro ⟨e, rest, haccepts, hrest, hdrop⟩
      have hlt : p < elements.length := by
        by_contra hge
        rw [List.drop_of_length_le (Nat.le_of_not_lt hge)] at hdrop
        cases hdrop
      rw [List.drop_eq_getElem_cons hlt] at hdrop
      obtain ⟨rfl, rfl⟩ := List.cons.inj hdrop
      exact ⟨p + 1, ⟨rfl, _, List.getElem?_eq_getElem hlt, haccepts⟩,
        (sequenceMeaning_elements hlt).mpr hrest⟩

/-- Elements that matchers of phones accept are phones. -/
theorem forall₂_accepts_iff {elements : List Element} : ∀ {ps : List Phone},
    List.Forall₂ (fun m e => m.accepts e = true)
        (ps.map fun p => ElementMatcher.phone (literalOf p)) elements ↔
      ∃ qs, elements = qs.map .phone ∧ List.Forall₂ IsLike ps qs := by
  intro ps
  rw [List.forall₂_map_left_iff]
  constructor
  · intro h
    induction h with
    | nil => exact ⟨[], rfl, .nil⟩
    | @cons p e _ _ haccepts _ ih =>
      obtain ⟨qs, rfl, hqs⟩ := ih
      cases e with
      | phone q => exact ⟨q :: qs, rfl, .cons (accepts_literalOf.mp haccepts) hqs⟩
      | stress _ | syllableBoundary | wordBoundary | pause _ => cases haccepts
  · rintro ⟨qs, rfl, h⟩
    rw [List.forall₂_map_right_iff]
    exact h.imp fun _ _ => accepts_literalOf.mpr

theorem isWhole_phones (ps : List Phone) (t : Transcription) :
    isWhole (.alternatives [ps.map fun p => .element (.phone (literalOf p))]) t = true ↔
      ∃ qs, visibleElements t = qs.map .phone ∧ List.Forall₂ IsLike ps qs := by
  have hmap : (ps.map fun p => Node.element (.phone (literalOf p))) =
      (ps.map fun p => ElementMatcher.phone (literalOf p)).map .element := by
    rw [List.map_map]
    rfl
  rw [isWhole_iff, ← forall₂_accepts_iff, ← List.drop_zero (l := visibleElements t),
    ← sequenceMeaning_elements (Nat.zero_le _), ← hmap]
  exact or_iff_left id

/-! ### Texts that are read as phones -/

theorem render_phones (ps : List Phone) :
    Transcription.render (ps.map .phone) = ps.flatMap Phone.text := by
  rw [Transcription.render, List.flatMap_map]
  rfl

/-- A text that is read as phones is these phones as they are written, with white space around
them. -/
theorem padded_of_read {s : Text} (h : Transcription.read table s = .ok (ps.map .phone))
    (hbare : ∀ k ∈ Transcription.tokens s, k.2.isConstituent = false) (hne : ps ≠ [])
    (hps : ∀ p ∈ ps, (p.withConstituent .unknown).Spelled table) :
    Padded (ps.flatMap Phone.text) s := by
  have hrender := Transcription.render_read h
  rw [Transcription.withoutConstituents_eq_self hbare, render_phones] at hrender
  have hblank : ∀ c ∈ ps.flatMap Phone.text, isBlank c = false := by
    intro c hc
    obtain ⟨p, hp, hc⟩ := List.mem_flatMap.mp hc
    exact (hps p hp).notBlank c hc
  have hnonempty : ps.flatMap Phone.text ≠ [] := by
    obtain ⟨p, rest, rfl⟩ := List.exists_cons_of_ne_nil hne
    obtain ⟨c, w, -, htext, -⟩ := (hps p List.mem_cons_self).exists_marks
    have htext : p.text = c :: w := htext
    simp [htext]
  have hwords := Text.eq_singleton_of_join hrender.symm hblank hnonempty
  obtain ⟨lead, v, trail, hlead, htrail, hs, hv, -⟩ := Text.padded_of_wordsFrom hwords
  rw [hv, List.reverse_nil, List.nil_append]
  exact ⟨lead, trail, hlead, htrail, hs⟩

/-- **Phones mean the same in a transcription and in an expression.**  A text that is read as
phones only, where none starts with a sign of the grammar, is an expression; as a whole it
matches a transcription whose visible elements are as many phones, each written like the phone
in its place, or with its base glyphs if that one has no diacritics.  So it matches what the
text is read as. -/
theorem read_phones {s : Text} (hread : Transcription.read table s = .ok (ps.map .phone))
    (hne : ps ≠ []) (hbare : ∀ k ∈ Transcription.tokens s, k.2.isConstituent = false)
    (hfirst : ∀ p ∈ ps, ∀ c ∈ p.text.head?, c ∉ phoneSigns) :
    ∃ root, read s = .ok root ∧
      (∀ t, isWhole root t = true ↔
        ∃ qs, visibleElements t = qs.map .phone ∧ List.Forall₂ IsLike ps qs) ∧
      isWhole root (ps.map .phone) = true := by
  have hspelled : ∀ p ∈ ps, (p.withConstituent .unknown).Spelled table := by
    intro p hp
    obtain ⟨i, hi⟩ := List.mem_iff_getElem?.mp (List.mem_map_of_mem (f := Element.phone) hp)
    exact Transcription.spelled_of_read hread (Transcription.phoneAt?_eq_some.mpr hi)
  obtain ⟨lead, trail, hlead, htrail, rfl⟩ := padded_of_read hread hbare hne hspelled
  have hliteral : ∀ p ∈ ps, IsLiteral table p := fun p hp => ⟨hspelled p hp, hfirst p hp⟩
  obtain ⟨w, hw, hbranch⟩ := branch_phones htrail hliteral hlead
  rw [← List.append_assoc] at hw
  have hexpression : Expression w
      (.alternatives [ps.map fun p => .element (.phone (literalOf p))]) :=
    .mk (.last hbranch) ⟨_, List.mem_singleton_self _, by simpa using hne⟩
  rw [← hw]
  refine ⟨_, hexpression.read, isWhole_phones ps, (isWhole_phones ps _).mpr ⟨ps, ?_, ?_⟩⟩
  · rw [visibleElements_eq, List.filter_eq_self]
    simp [Element.isTransparent]
  · exact List.forall₂_same.mpr fun p _ => isLike_self p

/-- An aspirated affricate, as the reader makes it. -/
def affricate : Phone :=
  ((Phone.ofGlyph 't' (FeatureTable.builtin.features 't')).addTied '\u0361' 'ʃ'
    (FeatureTable.builtin.find? 'ʃ')).addDiacritic 'ʰ'

/-- An open vowel, as the reader makes it. -/
def openVowel : Phone := .ofGlyph 'a' (FeatureTable.builtin.features 'a')

/-- The vowel may be long, behind a stress mark; the affricate has to be aspirated. -/
theorem read_phones_affricate :
    ∃ root, read ['t', '\u0361', 'ʃ', 'ʰ', 'a', ' '] = .ok root ∧
      isWhole root [.stress .primary, .phone affricate, .phone (openVowel.addDiacritic 'ː')] = true ∧
      isWhole root [.phone affricate.bare, .phone openVowel] = false := by
  have hread : Transcription.read .builtin ['t', '\u0361', 'ʃ', 'ʰ', 'a', ' '] =
      .ok ([affricate.withConstituent .onset, openVowel.withConstituent .nucleus].map .phone) := by
    decide +kernel
  have hfirst : ∀ p ∈ [affricate.withConstituent .onset, openVowel.withConstituent .nucleus],
      ∀ c ∈ p.text.head?, c ∉ phoneSigns := by
    refine List.forall_mem_cons.mpr ⟨fun c hc => ?_, List.forall_mem_singleton.mpr fun c hc => ?_⟩
    · obtain rfl : 't' = c := Option.some.inj hc
      decide
    · obtain rfl : 'a' = c := Option.some.inj hc
      decide
  obtain ⟨root, hroot, hwhole, -⟩ :=
    read_phones hread (List.cons_ne_nil _ _) (by decide +kernel) hfirst
  refine ⟨root, hroot, (hwhole _).mpr ⟨[affricate, openVowel.addDiacritic 'ː'], rfl,
    .cons (by decide +kernel) (.cons (by decide +kernel) .nil)⟩, Bool.eq_false_iff.mpr fun h => ?_⟩
  obtain ⟨qs, hqs, hlike⟩ := (hwhole _).mp h
  cases hlike with
  | @cons _ q _ _ hlike _ =>
    obtain rfl : affricate.bare = q := Element.phone.inj (List.cons.inj hqs).1
    exact absurd hlike (by decide +kernel)

end Phonex

end PhoneticSearch
