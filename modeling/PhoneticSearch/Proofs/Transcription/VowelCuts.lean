import Mathlib.Data.List.Induction
import Mathlib.Data.List.TakeWhile
import PhoneticSearch.Proofs.Transcription.Constituents
import PhoneticSearch.Proofs.Transcription.Cuts

/-!
# How default constituents cut a word

The default constituents of a word make the vowels its nuclei, and divide what stands between two
vowels into codas and onsets (`divide_plain`, `divide_marked`).  The scan for syllables knows
nothing of vowels; it cuts by constituents and marks.  That the two fit together is shown by an
induction along the vowels: what follows a nucleus is cut into syllables of onsets, nuclei and codas
in this order, whatever syllable the nucleus belongs to (`cutBehindVowel`).

So a word with a vowel is cut into such syllables (`exists_cuts_assignWord`).  Without marks of
stress and of syllable boundaries each of them has a nucleus, they are as many as there are runs of
vowels, and each but the first has one or two onsets.
-/

namespace PhoneticSearch.Transcription

/-! ### Runs of vowels -/

/-- The number of maximal runs of vowels. -/
def vowelRuns (t : Transcription) : Nat :=
  (t.splitOnP fun e => !e.isVowel).countP (!·.isEmpty)

section Runs

variable {v e : Element}

theorem vowelRuns_cons (he : e.isVowel = false) (t : Transcription) :
    vowelRuns (e :: t) = vowelRuns t := by
  rw [vowelRuns, List.splitOnP_cons_eq_if_modifyHead, if_pos (by simp [he]),
    List.countP_cons_of_neg (by simp)]
  rfl

theorem vowelRuns_append {gap : List Element} (hgap : ∀ e ∈ gap, e.isVowel = false)
    (t : Transcription) : vowelRuns (gap ++ t) = vowelRuns t := by
  induction gap with
  | nil => rfl
  | cons e gap ih =>
    obtain ⟨he, hgap⟩ := List.forall_mem_cons.mp hgap
    rw [List.cons_append, vowelRuns_cons he, ih hgap]

theorem splitOnP_vowel (hv : v.isVowel = true) (t : Transcription) :
    (v :: t).splitOnP (fun e => !e.isVowel) =
      (t.splitOnP fun e => !e.isVowel).modifyHead (v :: ·) := by
  rw [List.splitOnP_cons_eq_if_modifyHead, if_neg (by simp [hv])]

/-- A vowel at the end, or with something else behind it, ends its run. -/
theorem vowelRuns_vowel_append (hv : v.isVowel = true) {gap : List Element}
    (hgap : ∀ e ∈ gap, e.isVowel = false) (hne : gap ≠ []) (t : Transcription) :
    vowelRuns (v :: (gap ++ t)) = vowelRuns t + 1 := by
  obtain ⟨e, gap, rfl⟩ := List.exists_cons_of_ne_nil hne
  obtain ⟨he, hgap⟩ := List.forall_mem_cons.mp hgap
  rw [← vowelRuns_append hgap t, vowelRuns, splitOnP_vowel hv, List.cons_append,
    List.splitOnP_cons_eq_if_modifyHead, if_pos (by simp [he]), List.modifyHead_cons,
    List.countP_cons_of_pos (by simp)]
  rfl

theorem vowelRuns_singleton (hv : v.isVowel = true) : vowelRuns [v] = 1 := by
  rw [vowelRuns, splitOnP_vowel hv]
  rfl

/-- A vowel in front of another one belongs to its run. -/
theorem vowelRuns_vowel_cons {u : Element} (hu : u.isVowel = true) (hv : v.isVowel = true)
    (t : Transcription) : vowelRuns (u :: v :: t) = vowelRuns (v :: t) := by
  rw [vowelRuns, vowelRuns, splitOnP_vowel hu, splitOnP_vowel hv]
  cases t.splitOnP fun e => !e.isVowel with
  | nil => rfl
  | cons part parts => simp

end Runs

/-! ### The shape of syllables -/

/-- Whether phones are so many onsets, nuclei and codas, in this order. -/
def Spells (phones : List Phone) (onsets nuclei codas : Nat) : Prop :=
  phones.map (·.constituent) = List.replicate onsets .onset ++
    (List.replicate nuclei .nucleus ++ List.replicate codas .coda)

section Spells

variable {phones : List Phone} {p : Phone} {a b c : Nat}

theorem map_constituent_eq_replicate {k : Constituent} (h : ∀ p ∈ phones, p.constituent = k) :
    phones.map (·.constituent) = List.replicate phones.length k :=
  List.map_eq_replicate_iff.mpr h

theorem spells_onsets (h : ∀ p ∈ phones, p.constituent = .onset) :
    Spells phones phones.length 0 0 := by
  rw [Spells, map_constituent_eq_replicate h]
  exact (List.append_nil _).symm

theorem spells_codas (h : ∀ p ∈ phones, p.constituent = .coda) :
    Spells phones 0 0 phones.length :=
  map_constituent_eq_replicate h

theorem Spells.add_nucleus (h : Spells phones a b 0) (hp : p.constituent = .nucleus) :
    Spells (phones ++ [p]) a (b + 1) 0 := by
  rw [Spells, List.map_append, h, List.map_singleton, hp, List.replicate_succ']
  simp

theorem Spells.add_codas (h : Spells phones a b 0) {more : List Phone}
    (hmore : ∀ p ∈ more, p.constituent = .coda) : Spells (phones ++ more) a b more.length := by
  rw [Spells, List.map_append, h, map_constituent_eq_replicate hmore]
  simp

theorem endsBefore_iff : EndsBefore phones p ↔
    .nucleus ∈ phones.map (·.constituent) ∧ (p.constituent.startsSyllable = true ∨
      p.constituent = .nucleus ∧ (phones.map (·.constituent)).getLast? ≠ some .nucleus) := by
  have hnucleus : (OpenSyllable.begun 0 none phones).hasNucleus = true ↔
      .nucleus ∈ phones.map (·.constituent) := by
    simp [OpenSyllable.begun]
  have hafter : (OpenSyllable.begun 0 none phones).afterNucleus = true ↔
      (phones.map (·.constituent)).getLast? = some .nucleus := by
    show phones.getLast?.any _ = true ↔ _
    rw [List.getLast?_map]
    cases phones.getLast? <;> simp
  rw [EndsBefore, OpenSyllable.endsBefore, Bool.and_eq_true, hnucleus, Bool.or_eq_true,
    Bool.and_eq_true, Bool.not_eq_true', Ne, ← hafter, Bool.not_eq_true, beq_iff_eq]

/-- The syllable of phones with a nucleus ends before an onset. -/
theorem Spells.endsBefore (h : Spells phones a (b + 1) c) (hp : p.constituent = .onset) :
    EndsBefore phones p := by
  rw [endsBefore_iff, h, hp]
  refine ⟨?_, .inl rfl⟩
  simp [List.replicate_succ]

/-- Onsets, nuclei and codas in this order stand in one syllable. -/
theorem Spells.together (h : Spells phones a b c) (hne : phones ≠ []) : Together phones := by
  induction phones using List.reverseRecOn generalizing a b c with
  | nil => exact absurd rfl hne
  | append_singleton phones p ih =>
    have hlast : ∀ {a b c}, Spells phones a b c → ¬ EndsBefore phones p →
        Together (phones ++ [p]) := by
      intro a b c hphones hends
      by_cases hnil : phones = []
      · rw [hnil]
        exact .single p
      · exact .more (ih hphones hnil) hends
    rw [Spells, List.map_append, List.map_singleton] at h
    -- The last phone is a coda, or a nucleus, or an onset.
    cases c with
    | succ c =>
      rw [List.replicate_succ', ← List.append_assoc, ← List.append_assoc] at h
      obtain ⟨hphones, hp⟩ := List.append_inj' h rfl
      rw [List.append_assoc] at hphones
      refine hlast hphones ?_
      rw [endsBefore_iff, (List.cons.inj hp).1]
      rintro ⟨-, h | ⟨h, -⟩⟩ <;> cases h
    | zero =>
      rw [List.replicate_zero, List.append_nil] at h
      cases b with
      | succ b =>
        rw [List.replicate_succ', ← List.append_assoc] at h
        obtain ⟨hphones, hp⟩ := List.append_inj' h rfl
        have hspells : Spells phones a b 0 := by
          rw [Spells, hphones, List.replicate_zero, List.append_nil]
        refine hlast hspells ?_
        rw [endsBefore_iff, (List.cons.inj hp).1, hphones]
        rintro ⟨hmem, h | ⟨-, h⟩⟩
        · cases h
        · cases b with
          | zero => simp at hmem
          | succ b => simp [List.replicate_succ'] at h
      | zero =>
        rw [List.replicate_zero, List.append_nil] at h
        cases a with
        | zero => simp at h
        | succ a =>
          rw [List.replicate_succ'] at h
          obtain ⟨hphones, -⟩ := List.append_inj' h rfl
          have hspells : Spells phones a 0 0 := by
            rw [Spells, hphones]
            simp
          refine hlast hspells ?_
          rw [endsBefore_iff, hphones]
          rintro ⟨hmem, -⟩
          simp at hmem

end Spells

/-! ### The assignment -/

section Assignment

variable {gap rest : List Element} {v : Element}

theorem assignAfterVowel_append (hgap : ∀ e ∈ gap, e.isVowel = false) : ∀ before,
    assignAfterVowel before (gap ++ rest) = assignAfterVowel (gap.reverse ++ before) rest := by
  induction gap with
  | nil => exact fun _ => rfl
  | cons e gap ih =>
    intro before
    obtain ⟨he, hgap⟩ := List.forall_mem_cons.mp hgap
    rw [List.cons_append, assignAfterVowel, if_neg (by simp [he]), ih hgap, List.reverse_cons,
      List.append_assoc, List.singleton_append]

theorem assignAfterVowel_last (hgap : ∀ e ∈ gap, e.isVowel = false) :
    assignAfterVowel [] gap = assign .coda gap := by
  have hseen : assignAfterVowel [] (gap ++ []) = assignAfterVowel (gap.reverse ++ []) [] :=
    assignAfterVowel_append hgap []
  rw [List.append_nil, List.append_nil] at hseen
  rw [hseen, assignAfterVowel, List.reverse_reverse]

theorem assignAfterVowel_vowel (hgap : ∀ e ∈ gap, e.isVowel = false) (hv : v.isVowel = true) :
    assignAfterVowel [] (gap ++ v :: rest) =
      divide gap ++ v.withConstituent .nucleus :: assignAfterVowel [] rest := by
  rw [assignAfterVowel_append hgap, List.append_nil, assignAfterVowel, if_pos hv,
    List.reverse_reverse]

theorem assignWord_vowel (hgap : ∀ e ∈ gap, e.isVowel = false) (hv : v.isVowel = true) :
    assignWord (gap ++ v :: rest) =
      assign .onset gap ++ v.withConstituent .nucleus :: assignAfterVowel [] rest := by
  have hseen : ∀ lead, assignWordAfter lead (gap ++ v :: rest) =
      assignWordAfter (gap.reverse ++ lead) (v :: rest) := by
    induction gap with
    | nil => exact fun _ => rfl
    | cons e gap ih =>
      intro lead
      obtain ⟨he, hgap⟩ := List.forall_mem_cons.mp hgap
      rw [List.cons_append, assignWordAfter, if_neg (by simp [he]), ih hgap, List.reverse_cons,
        List.append_assoc, List.singleton_append]
  rw [assignWord, hseen, List.append_nil, assignWordAfter, if_pos hv, List.reverse_reverse]

/-- A cluster gives one or two of its consonants to the onset. -/
theorem onsetLength_bounds {l : List Element} (h : l ≠ []) :
    (onsetLength l = 1 ∨ onsetLength l = 2) ∧ onsetLength l ≤ l.length := by
  match l with
  | [] => exact absurd rfl h
  | [_] => exact ⟨.inl rfl, Nat.le_refl 1⟩
  | second :: first :: l =>
    rw [onsetLength]
    split
    · exact ⟨.inr rfl, Nat.le_add_left 2 _⟩
    · exact ⟨.inl rfl, Nat.le_add_left 1 _⟩

/-- Without marks, one or two consonants between vowels are onsets, and those in front of them are
codas. -/
theorem divide_plain (h : gap.any Element.isTransparent = false) (hne : gap ≠ []) :
    ∃ codas onsets, gap = codas ++ onsets ∧ (onsets.length = 1 ∨ onsets.length = 2) ∧
      divide gap = assign .coda codas ++ assign .onset onsets := by
  have hall : ∀ e ∈ gap, (!e.isTransparent) = true := by
    intro e he
    simpa using List.any_eq_false.mp h e he
  have hcluster : gap.takeWhile (!·.isTransparent) = gap := List.takeWhile_eq_self_iff.mpr hall
  have hrest : gap.dropWhile (!·.isTransparent) = [] := List.dropWhile_eq_nil_iff.mpr hall
  obtain ⟨hlength, hle⟩ := onsetLength_bounds (mt List.reverse_eq_nil_iff.mp hne)
  rw [List.length_reverse] at hle
  refine ⟨gap.take (gap.length - onsetLength gap.reverse),
    gap.drop (gap.length - onsetLength gap.reverse), (List.take_append_drop _ _).symm, ?_, ?_⟩
  · rw [List.length_drop, Nat.sub_sub_self hle]
    exact hlength
  · rw [divide, hcluster, hrest]
    rfl

/-- The first mark between vowels divides: what is in front of it are codas, what is behind it are
onsets. -/
theorem divide_marked (h : gap.any Element.isTransparent = true) : ∃ codas x onsets,
    gap = codas ++ x :: onsets ∧ codas.any Element.isTransparent = false ∧
      x.isTransparent = true ∧ divide gap = assign .coda codas ++ assign .onset (x :: onsets) := by
  have hsplit := List.takeWhile_append_dropWhile (p := (!·.isTransparent)) (l := gap)
  have hcluster : (gap.takeWhile (!·.isTransparent)).any Element.isTransparent = false := by
    rw [List.any_eq_false]
    intro e he
    simpa using List.mem_takeWhile_imp he
  cases hrest : gap.dropWhile (!·.isTransparent) with
  | nil =>
    rw [hrest, List.append_nil] at hsplit
    rw [hsplit, h] at hcluster
    cases hcluster
  | cons x onsets =>
    have hhead := List.head?_dropWhile_not (!·.isTransparent) gap
    rw [hrest] at hhead hsplit
    refine ⟨_, x, onsets, hsplit.symm, hcluster, by simpa using hhead, ?_⟩
    rw [divide, hrest]
    rfl

end Assignment

/-! ### The cuts of a word -/

/-- Whether an element of a word is a phone. -/
theorem exists_phones {l : List Element} (hword : Unbroken l)
    (hplain : l.any Element.isTransparent = false) (k : Constituent) : ∃ phones : List Phone,
    assign k l = phones.map .phone ∧ phones.length = l.length ∧
      ∀ p ∈ phones, p.constituent = k := by
  induction l with
  | nil => exact ⟨[], rfl, rfl, List.forall_mem_nil _⟩
  | cons e l ih =>
    obtain ⟨he, hword⟩ := List.forall_mem_cons.mp hword
    rw [List.any_cons, Bool.or_eq_false_iff] at hplain
    obtain ⟨phones, hphones, hlength, hall⟩ := ih hword hplain.2
    cases e with
    | phone p =>
      refine ⟨p.withConstituent k :: phones, ?_, congrArg (· + 1) hlength,
        List.forall_mem_cons.mpr ⟨rfl, hall⟩⟩
      rw [assign_cons, hphones]
      rfl
    | stress _ | syllableBoundary => cases hplain.1
    | wordBoundary | pause _ => cases he

theorem endsAt_of_isPhone {e : Element} (he : e.isPhone = false) (phones : List Phone)
    (t : Transcription) : EndsAt phones (e :: t) :=
  fun p hp => absurd hp (not_phone_first he t p)

theorem isPhone_of_isTransparent {e : Element} (he : e.isTransparent = true) :
    e.isPhone = false := by
  cases e with
  | phone _ | wordBoundary | pause _ => cases he
  | stress _ | syllableBoundary => rfl

/-- Whether the phones of a syllable are onsets, nuclei and codas, in this order. -/
def Cut.Shaped (c : Cut) : Prop := ∃ onsets nuclei codas, Spells c.phones onsets nuclei codas

theorem syllableElements_nil_append (mark : Option Stress) (phones : List Phone)
    (t : Transcription) :
    syllableElements mark [] ++ (phones.map .phone ++ t) = syllableElements mark phones ++ t := by
  simp [syllableElements]

/-- A mark may stand in front of what is cut into syllables, be it stressed or not. -/
theorem exists_cuts_mark {x : Element} {t : Transcription} (hx : x.isTransparent = true)
    (h : ∀ i mark, ∃ cuts, Cuts i (syllableElements mark [] ++ t) cuts ∧ ∀ c ∈ cuts, c.Shaped)
    (i : Nat) : ∃ cuts, Cuts i (x :: t) cuts ∧ ∀ c ∈ cuts, c.Shaped := by
  cases x with
  | stress mark => exact h i (some mark)
  | syllableBoundary =>
    obtain ⟨cuts, hcuts, hall⟩ := h (i + 1) none
    exact ⟨cuts, .outside ⟨rfl, fun _ _ h => by cases h⟩ hcuts, hall⟩
  | phone _ | wordBoundary | pause _ => cases hx

/-- Behind marks, phones of one constituent are cut into syllables at the marks. -/
theorem exists_cuts_assign {k : Constituent} {more : Transcription}
    (hshaped : ∀ {i mark phones}, (∀ p ∈ phones, p.constituent = k) →
      Cut.Shaped ⟨i, mark, phones⟩)
    (htogether : ∀ {phones}, (∀ p ∈ phones, p.constituent = k) → phones ≠ [] → Together phones)
    (hmore : ∀ i mark phones, (∀ p ∈ phones, p.constituent = k) →
      ∃ cuts, Cuts i (syllableElements mark phones ++ more) cuts ∧ ∀ c ∈ cuts, c.Shaped)
    (tail : List Element) : Unbroken tail → ∀ i mark,
      ∃ cuts, Cuts i (syllableElements mark [] ++ (assign k tail ++ more)) cuts ∧
        ∀ c ∈ cuts, c.Shaped := by
  induction tail using split_induction Element.isTransparent with
  | last part hpart =>
    intro hword i mark
    obtain ⟨phones, heq, -, hall⟩ := exists_phones hword
      (List.any_eq_false.mpr fun e he => by simp [hpart e he]) k
    rw [heq, syllableElements_nil_append]
    exact hmore i mark phones hall
  | step part x rest hpart hx ih =>
    intro hword i mark
    obtain ⟨hpart', hrest⟩ := List.forall_mem_append.mp hword
    obtain ⟨phones, heq, -, hall⟩ := exists_phones hpart'
      (List.any_eq_false.mpr fun e he => by simp [hpart e he]) k
    have hx' : x.withConstituent k = x :=
      Element.withConstituent_of_isPhone (isPhone_of_isTransparent hx) k
    have hlater := exists_cuts_mark hx (ih (List.forall_mem_cons.mp hrest).2)
    rw [assign_append, assign_cons, hx', heq, List.append_assoc, List.cons_append,
      syllableElements_nil_append]
    by_cases hnil : phones = []
    · rw [hnil]
      cases mark with
      | none => exact hlater i
      | some mark =>
        obtain ⟨cuts, hcuts, hcutsShaped⟩ := hlater (i + 1)
        have hloose : Loose (.stress mark) (x :: (assign k rest ++ more)) :=
          ⟨rfl, fun _ p _ => not_phone_first (isPhone_of_isTransparent hx) _ p⟩
        exact ⟨cuts, .outside hloose hcuts, hcutsShaped⟩
    · obtain ⟨cuts, hcuts, hcutsShaped⟩ := hlater (i + (syllableElements mark phones).length)
      exact ⟨_, .syllable ⟨i, mark, phones⟩ (htogether hall hnil)
        (endsAt_of_isPhone (isPhone_of_isTransparent hx) _ _) hcuts,
        List.forall_mem_cons.mpr ⟨hshaped hall, hcutsShaped⟩⟩

/-- Whether a syllable has one or two onsets in front of its nuclei. -/
def Cut.Headed (c : Cut) : Prop := ∃ onsets nuclei codas, (onsets = 1 ∨ onsets = 2) ∧
  Spells c.phones onsets (nuclei + 1) codas

theorem Cut.Headed.shaped {c : Cut} (h : c.Headed) : c.Shaped := by
  obtain ⟨onsets, nuclei, codas, -, h⟩ := h
  exact ⟨onsets, nuclei + 1, codas, h⟩

/-- Whether a transcription is cut into syllables of the default shape, the first of which has so
many onsets and a nucleus.  Without marks there are as many of them as there are runs of vowels. -/
def CutsByVowels (i : Nat) (t : Transcription) (onsets : Nat) (plain : Prop) (runs : Nat) : Prop :=
  ∃ first others, Cuts i t (first :: others) ∧
    (∃ nuclei codas, Spells first.phones onsets (nuclei + 1) codas) ∧
    (∀ c ∈ others, c.Shaped) ∧
    (plain → others.length + 1 = runs ∧ ∀ c ∈ others, c.Headed)

/-- How what follows a nucleus is cut, together with the syllable that the nucleus belongs to. -/
def CutBehindVowel (rest : List Element) : Prop :=
  ∀ {v : Element}, v.isVowel = true → ∀ (i : Nat) (mark : Option Stress) {phones : List Phone}
    {onsets nuclei : Nat}, Spells phones onsets (nuclei + 1) 0 →
      CutsByVowels i (syllableElements mark phones ++ assignAfterVowel [] rest) onsets
        (rest.any Element.isTransparent = false) (vowelRuns (v :: rest))

section Vowel

variable {rest : List Element} {v : Element}

/-- A syllable that takes one more vowel, and the rest of a word. -/
theorem CutBehindVowel.vowel (h : CutBehindVowel rest) (hv : v.isVowel = true) (i : Nat)
    (mark : Option Stress) {phones : List Phone} {onsets nuclei : Nat}
    (hphones : Spells phones onsets nuclei 0) :
    CutsByVowels i (syllableElements mark phones ++
        v.withConstituent .nucleus :: assignAfterVowel [] rest) onsets
      (rest.any Element.isTransparent = false) (vowelRuns (v :: rest)) := by
  cases v with
  | phone p =>
    have hcuts := h hv i mark (hphones.add_nucleus (p := p.withConstituent .nucleus) rfl)
    rwa [syllableElements_append] at hcuts
  | stress _ | syllableBoundary | wordBoundary | pause _ => cases hv

/-- Onsets with marks among them, a vowel behind them and the rest of a word. -/
theorem CutBehindVowel.marked (h : CutBehindVowel rest) (hv : v.isVowel = true)
    {tail : List Element} (htail : Unbroken tail) (i : Nat) :
    ∃ cuts, Cuts i (assign .onset tail ++ v.withConstituent .nucleus :: assignAfterVowel [] rest)
      cuts ∧ ∀ c ∈ cuts, c.Shaped := by
  refine exists_cuts_assign (fun hall => ⟨_, _, _, spells_onsets hall⟩)
    (fun hall hne => (spells_onsets hall).together hne) (fun i mark phones hall => ?_) tail htail i
    none
  obtain ⟨first, others, hcuts, ⟨nuclei, codas, hfirst⟩, hothers, -⟩ :=
    h.vowel hv i mark (spells_onsets hall)
  exact ⟨_, hcuts, List.forall_mem_cons.mpr ⟨⟨_, _, _, hfirst⟩, hothers⟩⟩

/-- Codas with marks among them. -/
theorem exists_cuts_codas {tail : List Element} (htail : Unbroken tail) (i : Nat) :
    ∃ cuts, Cuts i (assign .coda tail) cuts ∧ ∀ c ∈ cuts, c.Shaped := by
  have hcuts : ∃ cuts, Cuts i (assign .coda tail ++ []) cuts ∧ ∀ c ∈ cuts, c.Shaped := by
    refine exists_cuts_assign (fun hall => ⟨_, _, _, spells_codas hall⟩)
      (fun hall hne => (spells_codas hall).together hne) (fun i mark phones hall => ?_) tail htail
      i none
    rw [List.append_nil]
    by_cases hne : phones = []
    · cases mark with
      | none => exact ⟨[], hne ▸ .nil i, List.forall_mem_nil _⟩
      | some mark =>
        have hloose : Loose (.stress mark) [] := ⟨rfl, fun _ _ _ h => by cases h⟩
        exact ⟨[], hne ▸ .outside hloose (.nil _), List.forall_mem_nil _⟩
    · have hlast := Cuts.syllable ⟨i, mark, phones⟩ ((spells_codas hall).together hne)
        (fun _ h => by cases h) (.nil _)
      rw [List.append_nil] at hlast
      exact ⟨_, hlast, List.forall_mem_singleton.mpr ⟨_, _, _, spells_codas hall⟩⟩
  rwa [List.append_nil] at hcuts

end Vowel

/-- A syllable with a nucleus takes the codas behind it, and ends where they do. -/
theorem cuts_closed {i : Nat} {mark : Option Stress} {phones more : List Phone} {a b : Nat}
    (hphones : Spells phones a (b + 1) 0) (hmore : ∀ p ∈ more, p.constituent = .coda)
    {t : Transcription} {cuts : List Cut}
    (hends : EndsAt (phones ++ more) t)
    (h : Cuts (i + (syllableElements mark (phones ++ more)).length) t cuts) :
    Cuts i (syllableElements mark phones ++ (more.map .phone ++ t))
      (⟨i, mark, phones ++ more⟩ :: cuts) := by
  have hne : phones ++ more ≠ [] := by
    intro hnil
    rw [(List.append_eq_nil_iff.mp hnil).1] at hphones
    simp [Spells, List.replicate_succ] at hphones
  have hcut := Cuts.syllable ⟨i, mark, phones ++ more⟩ ((hphones.add_codas hmore).together hne)
    hends h
  have helements : syllableElements mark phones ++ (more.map .phone ++ t) =
      syllableElements mark (phones ++ more) ++ t := by
    simp [syllableElements]
  rw [helements]
  exact hcut

section Behind

variable {rest gap : List Element} {v v' : Element} {i : Nat} {mark : Option Stress}
  {phones : List Phone} {a b : Nat}

/-- Behind the last vowel of a word there are codas. -/
theorem cutBehindVowel_last (hgap : ∀ e ∈ gap, e.isVowel = false) (hword : Unbroken gap) :
    CutBehindVowel gap := by
  intro v hv i mark phones a b hphones
  rw [assignAfterVowel_last hgap]
  have hruns : vowelRuns (v :: gap) = 1 := by
    by_cases hne : gap = []
    · rw [hne, vowelRuns_singleton hv]
    · have hgaps := vowelRuns_vowel_append hv hgap hne []
      rwa [List.append_nil] at hgaps
  by_cases hplain : gap.any Element.isTransparent = false
  · obtain ⟨more, heq, -, hmore⟩ := exists_phones hword hplain .coda
    have hlast : Cuts i (syllableElements mark phones ++ (more.map .phone ++ []))
        [⟨i, mark, phones ++ more⟩] :=
      cuts_closed hphones hmore (fun _ h => by cases h) (.nil _)
    rw [List.append_nil, ← heq] at hlast
    exact ⟨_, [], hlast, ⟨b, _, hphones.add_codas hmore⟩, List.forall_mem_nil _,
      fun _ => ⟨hruns.symm, List.forall_mem_nil _⟩⟩
  · rw [Bool.not_eq_false] at hplain
    obtain ⟨codas, x, tail, rfl, hcodas, hx, -⟩ := divide_marked hplain
    obtain ⟨hword, htail⟩ := List.forall_mem_append.mp hword
    obtain ⟨more, heq, -, hmore⟩ := exists_phones hword hcodas .coda
    have hx' := isPhone_of_isTransparent hx
    obtain ⟨cuts, hcuts, hshaped⟩ := exists_cuts_codas htail
      (i + (syllableElements mark (phones ++ more)).length)
    rw [assign_cons, Element.withConstituent_of_isPhone hx'] at hcuts
    have hfirst := cuts_closed hphones hmore (endsAt_of_isPhone hx' _ _) hcuts
    rw [assign_append, assign_cons, Element.withConstituent_of_isPhone hx', heq]
    refine ⟨_, cuts, hfirst, ⟨b, _, hphones.add_codas hmore⟩, hshaped, fun h => ?_⟩
    rw [hplain] at h
    cases h

/-- A cluster without marks ends the syllable in front of its last consonants. -/
theorem CutBehindVowel.cluster (h : CutBehindVowel rest) (hgap : ∀ e ∈ gap, e.isVowel = false)
    (hne : gap ≠ []) (hmarks : gap.any Element.isTransparent = false) (hword : Unbroken gap)
    (hv : v.isVowel = true) (hv' : v'.isVowel = true) (hphones : Spells phones a (b + 1) 0)
    (i : Nat) (mark : Option Stress) :
    CutsByVowels i (syllableElements mark phones ++
        (divide gap ++ v'.withConstituent .nucleus :: assignAfterVowel [] rest)) a
      (rest.any Element.isTransparent = false) (vowelRuns (v :: (gap ++ v' :: rest))) := by
  obtain ⟨codas, onsets, hsplit, hlength, hdivide⟩ := divide_plain hmarks hne
  rw [hsplit, List.any_append, Bool.or_eq_false_iff] at hmarks
  obtain ⟨hwordCodas, hwordOnsets⟩ := List.forall_mem_append.mp (hsplit ▸ hword)
  obtain ⟨more, hcodas, -, hmore⟩ := exists_phones hwordCodas hmarks.1 .coda
  obtain ⟨next, honsets, hnextLength, hnext⟩ := exists_phones hwordOnsets hmarks.2 .onset
  obtain ⟨first, others, hcuts, ⟨nuclei, ends, hfirst⟩, hothers, hplain⟩ :=
    h.vowel hv' (i + (syllableElements mark (phones ++ more)).length) none (spells_onsets hnext)
  have hends : EndsAt (phones ++ more) (next.map .phone ++
      v'.withConstituent .nucleus :: assignAfterVowel [] rest) := by
    obtain ⟨p, next, rfl⟩ := List.exists_cons_of_ne_nil
      (List.ne_nil_of_length_pos (by omega : 0 < next.length))
    intro q hq
    obtain rfl : p = q := by simpa using hq
    exact (hphones.add_codas hmore).endsBefore (hnext p List.mem_cons_self)
  have hheaded : first.Headed := ⟨_, nuclei, ends, hnextLength ▸ hlength, hfirst⟩
  rw [hdivide, hcodas, honsets, List.append_assoc]
  refine ⟨_, first :: others, cuts_closed hphones hmore hends hcuts,
    ⟨b, _, hphones.add_codas hmore⟩, List.forall_mem_cons.mpr ⟨hheaded.shaped, hothers⟩,
    fun hrest => ?_⟩
  obtain ⟨hruns, hothersHeaded⟩ := hplain hrest
  rw [vowelRuns_vowel_append hv hgap hne, ← hruns]
  exact ⟨rfl, List.forall_mem_cons.mpr ⟨hheaded, hothersHeaded⟩⟩

/-- A cluster with marks ends the syllable in front of the first of them. -/
theorem CutBehindVowel.divided (h : CutBehindVowel rest)
    (hmarks : gap.any Element.isTransparent = true) (hword : Unbroken gap)
    (hv' : v'.isVowel = true) (hphones : Spells phones a (b + 1) 0) {plain : Prop}
    (hplain : ¬ plain) (runs : Nat) :
    CutsByVowels i (syllableElements mark phones ++
        (divide gap ++ v'.withConstituent .nucleus :: assignAfterVowel [] rest)) a plain runs := by
  obtain ⟨codas, x, onsets, rfl, hcodas, hx, hdivide⟩ := divide_marked hmarks
  obtain ⟨hwordCodas, hwordOnsets⟩ := List.forall_mem_append.mp hword
  obtain ⟨more, heq, -, hmore⟩ := exists_phones hwordCodas hcodas .coda
  have hx' := isPhone_of_isTransparent hx
  obtain ⟨cuts, hcuts, hshaped⟩ := h.marked hv' hwordOnsets
    (i + (syllableElements mark (phones ++ more)).length)
  rw [assign_cons, Element.withConstituent_of_isPhone hx', List.cons_append] at hcuts
  have hfirst := cuts_closed hphones hmore (endsAt_of_isPhone hx' _ _) hcuts
  rw [hdivide, assign_cons, Element.withConstituent_of_isPhone hx', heq, List.append_assoc,
    List.cons_append]
  exact ⟨_, cuts, hfirst, ⟨b, _, hphones.add_codas hmore⟩, hshaped, fun h => absurd h hplain⟩

/-- What follows a nucleus in a word is cut into syllables of the default shape. -/
theorem cutBehindVowel (rest : List Element) : Unbroken rest → CutBehindVowel rest := by
  induction rest using split_induction Element.isVowel with
  | last gap hgap => exact cutBehindVowel_last hgap
  | step gap v' rest hgap hv' ih =>
    intro hword v hv i mark phones a b hphones
    obtain ⟨hwordGap, hwordRest⟩ := List.forall_mem_append.mp hword
    have hrest : CutBehindVowel rest := ih (List.forall_mem_cons.mp hwordRest).2
    rw [assignAfterVowel_vowel hgap hv', List.any_append, List.any_cons, Bool.or_eq_false_iff,
      Bool.or_eq_false_iff]
    by_cases hne : gap = []
    · -- The vowels belong to one syllable.
      subst hne
      obtain ⟨first, others, hcuts, hfirst, hothers, hplain⟩ := hrest.vowel hv' i mark hphones
      rw [List.nil_append, vowelRuns_vowel_cons hv hv']
      exact ⟨first, others, hcuts, hfirst, hothers, fun h => hplain h.2.2⟩
    · by_cases hmarks : gap.any Element.isTransparent = false
      · obtain ⟨first, others, hcuts, hfirst, hothers, hplain⟩ :=
          hrest.cluster hgap hne hmarks hwordGap hv hv' hphones i mark
        exact ⟨first, others, hcuts, hfirst, hothers, fun h => hplain h.2.2⟩
      · exact hrest.divided ((Bool.not_eq_false _).mp hmarks) hwordGap hv' hphones
          (fun h => hmarks h.1) _

end Behind

theorem exists_first_vowel {word : List Element} (h : word.any Element.isVowel = true) :
    ∃ lead v rest, word = lead ++ v :: rest ∧ (∀ e ∈ lead, e.isVowel = false) ∧
      v.isVowel = true := by
  induction word using split_induction Element.isVowel with
  | last part hpart =>
    obtain ⟨e, he, hvowel⟩ := List.any_eq_true.mp h
    rw [hpart e he] at hvowel
    cases hvowel
  | step part v rest hpart hv _ => exact ⟨part, v, rest, rfl, hpart, hv⟩

/-- The default constituents of a word with a vowel cut it into syllables of the default shape. -/
theorem exists_cuts_assignWord {word : List Element} (hword : Unbroken word)
    (hvowel : word.any Element.isVowel = true) (i : Nat) : ∃ cuts, Cuts i (assignWord word) cuts ∧
      (∀ c ∈ cuts, c.Shaped) ∧ (word.any Element.isTransparent = false →
        cuts.length = vowelRuns word ∧ (∀ c ∈ cuts, ∃ onsets nuclei codas,
          Spells c.phones onsets (nuclei + 1) codas) ∧ ∀ c ∈ cuts.tail, c.Headed) := by
  obtain ⟨lead, v, rest, rfl, hlead, hv⟩ := exists_first_vowel hvowel
  obtain ⟨hwordLead, hwordRest⟩ := List.forall_mem_append.mp hword
  have hrest : CutBehindVowel rest := cutBehindVowel rest (List.forall_mem_cons.mp hwordRest).2
  rw [assignWord_vowel hlead hv]
  by_cases hmarks : lead.any Element.isTransparent = false
  · obtain ⟨onsets, heq, -, honsets⟩ := exists_phones hwordLead hmarks .onset
    obtain ⟨first, others, hcuts, ⟨nuclei, codas, hfirst⟩, hothers, hplain⟩ :=
      hrest.vowel hv i none (spells_onsets honsets)
    rw [heq]
    refine ⟨first :: others, hcuts, List.forall_mem_cons.mpr ⟨⟨_, _, _, hfirst⟩, hothers⟩,
      fun h => ?_⟩
    rw [List.any_append, List.any_cons, Bool.or_eq_false_iff, Bool.or_eq_false_iff] at h
    obtain ⟨hruns, hheaded⟩ := hplain h.2.2
    refine ⟨?_, List.forall_mem_cons.mpr ⟨⟨_, _, _, hfirst⟩, fun c hc => ?_⟩, hheaded⟩
    · rw [vowelRuns_append hlead, ← hruns]
      rfl
    · obtain ⟨onsets, nuclei, codas, -, hc⟩ := hheaded c hc
      exact ⟨onsets, nuclei, codas, hc⟩
  · obtain ⟨cuts, hcuts, hshaped⟩ := hrest.marked hv hwordLead i
    refine ⟨cuts, hcuts, hshaped, fun h => absurd ?_ hmarks⟩
    rw [List.any_append, Bool.or_eq_false_iff] at h
    exact h.1

end PhoneticSearch.Transcription
