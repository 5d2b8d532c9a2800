import PhoneticSearch.Proofs.Span
import PhoneticSearch.Proofs.Transcription.WordSyllables

/-!
# Where a transcription is cut into syllables

What ends a syllable can be told from its phones and from the element behind them
(`OpenSyllable.begun`, `EndsBefore`).  `Cuts` reads a transcription syllable by syllable in this
way, with the elements that follow each syllable in sight, so that no syllable ends too early.
Every transcription can be read so (`exists_cuts`), and the scan finds the syllables of any such
reading (`Cuts.placed_eq`): the reading is unique, and it is enough to exhibit one.

A part of a transcription with ends that split no syllable is cut like the whole
(`Cuts.drop`, `Cuts.take`).  So the syllables of the part are those of the whole that lie in it
(`placedSyllables_subsection`).
-/

namespace PhoneticSearch.Transcription

/-! ### Syllables that have begun -/

/-- The syllable that a stress mark, if there is one, and some phones behind it begin at a
position. -/
def OpenSyllable.begun (i : Nat) (mark : Option Stress) (phones : List Phone) : OpenSyllable where
  start := i
  stop := if phones.isEmpty then i else i + (syllableElements mark phones).length
  stress := markedStress mark
  hasPhone := !phones.isEmpty
  hasNucleus := phones.any (·.constituent == .nucleus)
  afterNucleus := phones.getLast?.any (·.constituent == .nucleus)

theorem OpenSyllable.begun_add (i : Nat) (mark : Option Stress) (phones : List Phone) (p : Phone) :
    (begun i mark phones).add (i + (syllableElements mark phones).length) p.constituent =
      begun i mark (phones ++ [p]) := by
  simp [begun, add, syllableElements, Nat.add_assoc]

theorem closeSyllable_begun (word i : Nat) (mark : Option Stress) {phones : List Phone}
    (h : phones ≠ []) : closeSyllable word (some (OpenSyllable.begun i mark phones)) =
      [⟨⟨i, i + (syllableElements mark phones).length⟩, markedStress mark, word⟩] := by
  simp [closeSyllable, OpenSyllable.begun, h]

/-- Whether the syllable that some phones have begun ends before one more phone. -/
def EndsBefore (phones : List Phone) (p : Phone) : Prop :=
  (OpenSyllable.begun 0 none phones).endsBefore p.constituent = true

/-- Phones that stand in one syllable. -/
inductive Together : List Phone → Prop where
  | single (p : Phone) : Together [p]
  | more {phones : List Phone} {p : Phone} (h : Together phones) (hp : ¬ EndsBefore phones p) :
    Together (phones ++ [p])

theorem Together.ne_nil {phones : List Phone} (h : Together phones) : phones ≠ [] := by
  cases h <;> simp

/-- Whether the syllable of some phones ends in front of a transcription. -/
def EndsAt (phones : List Phone) (t : Transcription) : Prop :=
  ∀ p, t.head? = some (.phone p) → EndsBefore phones p

/-- Whether an element in front of a transcription belongs to no syllable: it is no phone, and
no stress mark with a phone behind it. -/
def Loose (e : Element) (t : Transcription) : Prop :=
  e.isPhone = false ∧ ∀ mark p, e = .stress mark → t.head? ≠ some (.phone p)

/-- A syllable that a transcription is cut into. -/
structure Cut where
  /-- The position of its first element. -/
  start : Nat
  /-- The stress mark at its start, if there is one. -/
  mark : Option Stress
  phones : List Phone

namespace Cut

/-- The elements of a syllable. -/
def elements (c : Cut) : Transcription := syllableElements c.mark c.phones

/-- Where the elements of a syllable stand. -/
def span (c : Cut) : Span := ⟨c.start, c.start + c.elements.length⟩

/-- Where a syllable stands, and its stress. -/
def placed (c : Cut) : Span × SyllableStress := (c.span, markedStress c.mark)

theorem length_pos {c : Cut} (h : Together c.phones) : 0 < c.elements.length := by
  have hpos := List.length_pos_iff.mpr h.ne_nil
  rw [elements, length_syllableElements]
  omega

end Cut

/-- How a transcription whose first element has position `i` is cut into syllables. -/
inductive Cuts : (i : Nat) → Transcription → List Cut → Prop where
  | nil (i : Nat) : Cuts i [] []
  | outside {i : Nat} {e : Element} {t : Transcription} {cuts : List Cut}
      (he : Loose e t) (h : Cuts (i + 1) t cuts) : Cuts i (e :: t) cuts
  | syllable {t : Transcription} {cuts : List Cut} (c : Cut) (hphones : Together c.phones)
      (hends : EndsAt c.phones t) (h : Cuts (c.start + c.elements.length) t cuts) :
      Cuts c.start (c.elements ++ t) (c :: cuts)

/-! ### The scan cuts in this way -/

/-- A syllable that ends here is closed, and the scan goes on without one. -/
theorem syllablesFrom_close {s : OpenSyllable} {t : Transcription}
    (h : ∀ p, t.head? = some (.phone p) → s.endsBefore p.constituent = true) (i word : Nat)
    (inWord : Bool) : syllablesFrom i word inWord (some s) t =
      closeSyllable word (some s) ++ syllablesFrom i word inWord none t := by
  cases t with
  | nil => exact (List.append_nil _).symm
  | cons e t =>
    cases e with
    | wordBoundary | pause _ | syllableBoundary | stress _ => rfl
    | phone p => rw [syllablesFrom, if_pos (h p rfl), syllablesFrom]

/-- Phones that stand in one syllable are taken into it. -/
theorem syllablesFrom_together {phones : List Phone} (h : Together phones) (i word : Nat)
    (inWord : Bool) (mark : Option Stress) (t : Transcription) :
    syllablesFrom i word inWord none (syllableElements mark phones ++ t) =
      syllablesFrom (i + (syllableElements mark phones).length) word true
        (some (.begun i mark phones)) t := by
  induction h generalizing t with
  | single p =>
    rw [← List.nil_append [p], ← OpenSyllable.begun_add]
    cases mark with
    | none => rfl
    | some mark => rfl
  | @more phones p _ hp ih =>
    have hends : ¬ (OpenSyllable.begun i mark phones).endsBefore p.constituent = true := hp
    rw [syllableElements_append, ih, syllablesFrom, if_neg hends, OpenSyllable.begun_add,
      length_syllableElements, length_syllableElements, List.length_append, ← Nat.add_assoc,
      ← Nat.add_assoc, ← Nat.add_assoc]
    rfl

namespace Cuts

variable {i : Nat} {t : Transcription} {cuts : List Cut}

/-- The scan finds the syllables that a transcription is cut into. -/
theorem syllablesFrom_eq (h : Cuts i t cuts) : ∀ (word : Nat) (inWord : Bool),
    (syllablesFrom i word inWord none t).map (fun s => (s.span, s.stress)) =
      cuts.map Cut.placed := by
  induction h with
  | nil i => exact fun _ _ => rfl
  | @outside i e t cuts he _ ih =>
    intro word inWord
    cases e with
    | phone p => cases he.1
    | wordBoundary | pause _ | syllableBoundary => exact ih _ _
    | stress mark =>
      have hloose : ∀ p, t.head? = some (.phone p) →
          (OpenSyllable.new i (.ofMark mark)).endsBefore p.constituent = true :=
        fun p hp => absurd hp (he.2 mark p rfl)
      rw [syllablesFrom, syllablesFrom_close hloose]
      exact ih word true
  | @syllable t cuts c hphones hends _ ih =>
    intro word inWord
    have hclosed := @syllablesFrom_close (.begun c.start c.mark c.phones) t hends
    rw [Cut.elements, syllablesFrom_together hphones, hclosed,
      closeSyllable_begun word c.start c.mark hphones.ne_nil, List.map_append, ← Cut.elements, ih]
    rfl

/-- The syllables of a transcription are those that it is cut into. -/
theorem placed_eq (h : Cuts i t cuts) : placedSyllables i t = cuts.map Cut.placed := by
  have hmoved := syllablesFrom_moved i 0 t 0 0 false none
  rw [Nat.zero_add, Nat.zero_add, Option.map_none] at hmoved
  rw [← h.syllablesFrom_eq 0 false, hmoved, List.map_map]
  rfl

end Cuts

theorem not_phone_first {e : Element} (he : e.isPhone = false) (t : Transcription) (p : Phone) :
    (e :: t).head? ≠ some (.phone p) := by
  rintro h
  obtain rfl := Option.some.inj h
  cases he

/-- An element that is no phone ends the syllable in front of it, and leaves a stress mark in front
of it to no syllable. -/
theorem exists_cuts_of_isPhone {e : Element} (he : e.isPhone = false) {t : Transcription}
    (h : ∀ i, ∃ cuts, Cuts i (e :: t) cuts) (i : Nat) :
    (∃ cuts, Cuts i (e :: t) cuts) ∧
    (∀ mark, ∃ cuts, Cuts i (.stress mark :: e :: t) cuts) ∧
    (∀ mark {phones}, Together phones →
      ∃ cuts, Cuts i (syllableElements mark phones ++ e :: t) cuts) := by
  refine ⟨h i, fun mark => ?_, fun mark phones hphones => ?_⟩
  · obtain ⟨cuts, h⟩ := h (i + 1)
    exact ⟨_, .outside ⟨rfl, fun _ p _ => not_phone_first he t p⟩ h⟩
  · obtain ⟨cuts, h⟩ := h (i + (syllableElements mark phones).length)
    exact ⟨_, .syllable ⟨i, mark, phones⟩ hphones
      (fun p hp => absurd hp (not_phone_first he t p)) h⟩

/-- Every transcription is cut into syllables, also behind a stress mark or behind phones that
stand in one syllable. -/
theorem exists_cuts : ∀ (t : Transcription) (i : Nat), (∃ cuts, Cuts i t cuts) ∧
    (∀ mark, ∃ cuts, Cuts i (.stress mark :: t) cuts) ∧
    (∀ mark {phones}, Together phones →
      ∃ cuts, Cuts i (syllableElements mark phones ++ t) cuts) := by
  intro t
  induction t with
  | nil =>
    intro i
    have hlast : ∀ mark, Loose (.stress mark) [] := fun mark => ⟨rfl, fun _ _ _ h => by cases h⟩
    exact ⟨⟨_, .nil i⟩, fun mark => ⟨_, .outside (hlast mark) (.nil _)⟩,
      fun mark phones h => ⟨_, .syllable ⟨i, mark, phones⟩ h (fun _ h => by cases h) (.nil _)⟩⟩
  | cons e t ih =>
    intro i
    have hloose : ∀ {e : Element}, e.isPhone = false → (∀ mark, e ≠ .stress mark) →
        ∀ i, ∃ cuts, Cuts i (e :: t) cuts := fun he hne i =>
      (ih (i + 1)).1.imp fun _ h => .outside ⟨he, fun mark _ hmark => absurd hmark (hne mark)⟩ h
    cases e with
    | wordBoundary | pause _ | syllableBoundary =>
      exact exists_cuts_of_isPhone rfl (hloose rfl fun _ h => by cases h) i
    | stress mark => exact exists_cuts_of_isPhone rfl (fun i => (ih i).2.1 mark) i
    | phone p =>
      have hsingle : ∀ i mark, ∃ cuts, Cuts i (syllableElements mark [p] ++ t) cuts :=
        fun i mark => (ih i).2.2 mark (.single p)
      refine ⟨hsingle i none, fun mark => hsingle i (some mark), fun mark phones h => ?_⟩
      by_cases hends : EndsBefore phones p
      · obtain ⟨rest, hrest⟩ := hsingle (i + (syllableElements mark phones).length) none
        refine ⟨_, .syllable ⟨i, mark, phones⟩ h (fun q hq => ?_) hrest⟩
        obtain rfl : p = q := by simpa using hq
        exact hends
      · rw [← syllableElements_append]
        exact (ih i).2.2 mark (h.more hends)

/-! ### Parts -/

theorem length_le_of_not_splits {i position : Nat} {block : Transcription}
    (h : ¬ Span.Splits ⟨i, i + block.length⟩ (i + position)) (hpos : 0 < position) :
    block.length ≤ position := by
  refine Nat.le_of_not_lt fun hlt => h ⟨?_, ?_⟩
  · exact Nat.lt_add_of_pos_right hpos
  · exact Nat.add_lt_add_left hlt i

theorem append_eq_append_of_le {block t before rest : Transcription}
    (h : block ++ t = before ++ rest) (hle : block.length ≤ before.length) :
    ∃ more, before = block ++ more ∧ t = more ++ rest := by
  have hprefix : block <+: before :=
    List.prefix_of_prefix_length_le ⟨t, rfl⟩ ⟨rest, h.symm⟩ hle
  obtain ⟨more, rfl⟩ := hprefix
  rw [List.append_assoc] at h
  exact ⟨more, rfl, List.append_cancel_left h⟩

theorem EndsAt.append_left {phones : List Phone} {s t : Transcription}
    (h : EndsAt phones (s ++ t)) : EndsAt phones s := by
  intro p hp
  refine h p ?_
  rw [List.head?_append, hp]
  rfl

theorem Loose.append_left {e : Element} {s t : Transcription} (h : Loose e (s ++ t)) :
    Loose e s := by
  refine ⟨h.1, fun mark p hmark hp => h.2 mark p hmark ?_⟩
  rw [List.head?_append, hp]
  rfl

namespace Cuts

variable {i : Nat} {t : Transcription} {cuts : List Cut}

theorem le_start (h : Cuts i t cuts) :
    ∀ c ∈ cuts, i ≤ c.span.start ∧ c.span.start < c.span.stop := by
  induction h with
  | nil => exact List.forall_mem_nil _
  | outside _ _ ih => exact fun c hc => ⟨Nat.le_of_succ_le (ih c hc).1, (ih c hc).2⟩
  | @syllable t cuts c hphones _ _ ih =>
    refine List.forall_mem_cons.mpr ⟨⟨Nat.le_refl _, ?_⟩, fun c' hc' => ?_⟩
    · exact Nat.lt_add_of_pos_right (Cut.length_pos hphones)
    · exact ⟨Nat.le_trans (Nat.le_add_right _ _) (ih c' hc').1, (ih c' hc').2⟩

/-- What is behind a position that splits no syllable is cut like the whole. -/
theorem drop (h : Cuts i t cuts) : ∀ {before rest : Transcription}, t = before ++ rest →
    (∀ c ∈ cuts, ¬ c.span.Splits (i + before.length)) →
    Cuts (i + before.length) rest (cuts.filter (i + before.length ≤ ·.span.start)) := by
  -- In front of the first element nothing is left out.
  have hall : ∀ {i t cuts}, Cuts i t cuts → ∀ {rest : Transcription}, t = [] ++ rest →
      Cuts (i + ([] : Transcription).length) rest
        (cuts.filter (i + ([] : Transcription).length ≤ ·.span.start)) := by
    rintro i t cuts h rest rfl
    rwa [List.length_nil, Nat.add_zero, List.filter_eq_self.mpr fun c hc =>
      decide_eq_true (h.le_start c hc).1]
  induction h with
  | nil i =>
    intro before rest ht _
    obtain ⟨rfl, rfl⟩ := List.append_eq_nil_iff.mp ht.symm
    exact hall (.nil i) rfl
  | @outside i e t cuts he h ih =>
    intro before rest ht hclean
    cases before with
    | nil => exact hall (.outside he h) ht
    | cons x before =>
      obtain ⟨rfl, rfl⟩ := List.cons.inj ht
      rw [List.length_cons, Nat.add_comm _ 1, ← Nat.add_assoc] at hclean ⊢
      exact ih rfl hclean
  | @syllable t cuts c hphones hends h ih =>
    intro before rest ht hclean
    have hpos := Cut.length_pos hphones
    cases before with
    | nil => exact hall (.syllable c hphones hends h) ht
    | cons x before =>
      obtain ⟨hfirst, hlater⟩ := List.forall_mem_cons.mp hclean
      have hle := length_le_of_not_splits hfirst (Nat.succ_pos _)
      obtain ⟨more, hmore, rfl⟩ := append_eq_append_of_le ht hle
      rw [hmore, List.length_append, ← Nat.add_assoc] at hlater ⊢
      have hfront : ¬ c.start + c.elements.length + more.length ≤ c.span.start := by
        show ¬ _ ≤ c.start
        omega
      rw [List.filter_cons_of_neg (by rwa [decide_eq_true_eq])]
      exact ih rfl hlater

/-- What is in front of a position that splits no syllable is cut like the whole. -/
theorem take (h : Cuts i t cuts) : ∀ {front after : Transcription}, t = front ++ after →
    (∀ c ∈ cuts, ¬ c.span.Splits (i + front.length)) →
    Cuts i front (cuts.filter (·.span.stop ≤ i + front.length)) := by
  -- In front of the first element there is nothing.
  have hnone : ∀ {i t cuts}, Cuts i t cuts →
      Cuts i [] (cuts.filter (·.span.stop ≤ i + ([] : Transcription).length)) := by
    intro i t cuts h
    rw [List.filter_eq_nil_iff.mpr fun c hc => by
      have := h.le_start c hc
      simp only [List.length_nil, decide_eq_true_eq]
      omega]
    exact .nil i
  induction h with
  | nil i =>
    intro front after ht _
    obtain ⟨rfl, rfl⟩ := List.append_eq_nil_iff.mp ht.symm
    exact hnone (.nil i)
  | @outside i e t cuts he h ih =>
    intro front after ht hclean
    cases front with
    | nil => exact hnone (.outside he h)
    | cons x front =>
      obtain ⟨rfl, rfl⟩ := List.cons.inj ht
      rw [List.length_cons, Nat.add_comm _ 1, ← Nat.add_assoc] at hclean ⊢
      exact .outside (he.append_left) (ih rfl hclean)
  | @syllable t cuts c hphones hends h ih =>
    intro front after ht hclean
    cases front with
    | nil => exact hnone (.syllable c hphones hends h)
    | cons x front =>
      obtain ⟨hfirst, hlater⟩ := List.forall_mem_cons.mp hclean
      have hle := length_le_of_not_splits hfirst (Nat.succ_pos _)
      obtain ⟨more, hmore, rfl⟩ := append_eq_append_of_le ht hle
      rw [hmore, List.length_append, ← Nat.add_assoc] at hlater ⊢
      have hwithin : c.span.stop ≤ c.start + c.elements.length + more.length :=
        Nat.le_add_right _ _
      rw [List.filter_cons_of_pos (by rwa [decide_eq_true_eq])]
      exact .syllable c hphones hends.append_left (ih rfl hlater)

end Cuts

/-- The syllables of a part with ends that split no syllable are those of the whole that lie in
it. -/
theorem placedSyllables_subsection {t : Transcription} {s : Span} (hle : s.start ≤ s.stop)
    (hstop : s.stop ≤ t.length)
    (hclean : ∀ x ∈ t.syllables, ¬ x.span.Splits s.start ∧ ¬ x.span.Splits s.stop) :
    placedSyllables s.start (t.subsection s) =
      (placedSyllables 0 t).filter fun x => s.encloses x.1 := by
  have hfront : (t.take s.stop).length = s.stop := by
    rw [List.length_take]
    omega
  have hbefore : (t.take s.start).length = s.start := by
    rw [List.length_take]
    omega
  obtain ⟨cuts, hcuts⟩ := (exists_cuts t 0).1
  have hsplits : ∀ c ∈ cuts, ¬ c.span.Splits s.start ∧ ¬ c.span.Splits s.stop := by
    intro c hc
    have hplaced : c.placed ∈ placedSyllables 0 t := hcuts.placed_eq ▸ List.mem_map_of_mem hc
    rw [placedSyllables_zero] at hplaced
    obtain ⟨x, hx, heq⟩ := List.mem_map.mp hplaced
    have hspan : c.span = x.span := congrArg Prod.fst heq.symm
    rw [hspan]
    exact hclean x hx
  have hcut := hcuts.take (List.take_append_drop s.stop t).symm fun c hc => by
    rw [hfront, Nat.zero_add]
    exact (hsplits c hc).2
  have hpart := hcut.drop (take_append_subsection hle).symm fun c hc => by
    rw [hbefore, Nat.zero_add]
    exact (hsplits c (List.mem_filter.mp hc).1).1
  simp only [hfront, hbefore, Nat.zero_add, List.filter_filter] at hpart
  rw [hpart.placed_eq, hcuts.placed_eq, List.filter_map]
  rfl

end PhoneticSearch.Transcription
