import PhoneticSearch.Proofs.Transcription.Legible
import PhoneticSearch.Proofs.Transcription.VowelCuts

/-!
# The syllables of words without constituents

Where a text says nothing about constituents, its words get the default ones one by one
(`parts_syllabify`).  The syllables with the number of a word are the syllables of that part of the
transcription (`placedSyllables_word`), as the ends of words split no syllable.  So what the default
constituents cut a word into can be read off the transcription (`default_syllables`).
-/

namespace PhoneticSearch.Transcription

/-! ### Vowels are nuclei -/

/-- Whether the nuclei of a transcription are its vowels. -/
def NucleiAreVowels (t : Transcription) : Prop :=
  ∀ p, .phone p ∈ t → (p.constituent = .nucleus ↔ p.isVowel = true)

section Nuclei

variable {s t : List Element} {v : Element}

theorem NucleiAreVowels.append (hs : NucleiAreVowels s) (ht : NucleiAreVowels t) :
    NucleiAreVowels (s ++ t) :=
  fun p hp => (List.mem_append.mp hp).elim (hs p) (ht p)

theorem nucleiAreVowels_assign (h : ∀ e ∈ t, e.isVowel = false) {k : Constituent}
    (hk : k ≠ .nucleus) : NucleiAreVowels (assign k t) := by
  intro p hp
  obtain ⟨e, he, heq⟩ := List.mem_map.mp hp
  have hvowel := h e he
  rw [← Element.isVowel_withConstituent k, heq] at hvowel
  have hconstituent : p.constituent = k := by
    cases e with
    | phone q =>
      obtain rfl := Element.phone.inj heq
      rfl
    | stress _ | syllableBoundary | wordBoundary | pause _ => cases heq
  refine iff_of_false (hconstituent ▸ hk) ?_
  rw [show p.isVowel = false from hvowel]
  exact Bool.false_ne_true

theorem nucleiAreVowels_divide (h : ∀ e ∈ t, e.isVowel = false) : NucleiAreVowels (divide t) := by
  have hsplit : ∃ codas onsets, t = codas ++ onsets ∧
      divide t = assign .coda codas ++ assign .onset onsets := by
    by_cases hmarks : t.any Element.isTransparent = true
    · obtain ⟨codas, x, onsets, heq, -, -, hdivide⟩ := divide_marked hmarks
      exact ⟨codas, x :: onsets, heq, hdivide⟩
    · by_cases hne : t = []
      · refine ⟨[], [], hne, ?_⟩
        rw [hne]
        rfl
      · obtain ⟨codas, onsets, heq, -, hdivide⟩ :=
          divide_plain ((Bool.not_eq_true _).mp hmarks) hne
        exact ⟨codas, onsets, heq, hdivide⟩
  obtain ⟨codas, onsets, rfl, hdivide⟩ := hsplit
  obtain ⟨hcodas, honsets⟩ := List.forall_mem_append.mp h
  rw [hdivide]
  exact (nucleiAreVowels_assign hcodas (by decide)).append
    (nucleiAreVowels_assign honsets (by decide))

theorem NucleiAreVowels.vowel (ht : NucleiAreVowels t) (hv : v.isVowel = true) :
    NucleiAreVowels (v.withConstituent .nucleus :: t) := by
  intro p hp
  rcases List.mem_cons.mp hp with hp | hp
  · cases v with
    | phone q =>
      obtain rfl := Element.phone.inj hp
      exact iff_of_true rfl hv
    | stress _ | syllableBoundary | wordBoundary | pause _ => cases hv
  · exact ht p hp

theorem nucleiAreVowels_assignAfterVowel (rest : List Element) :
    NucleiAreVowels (assignAfterVowel [] rest) := by
  induction rest using split_induction Element.isVowel with
  | last gap hgap =>
    rw [assignAfterVowel_last hgap]
    exact nucleiAreVowels_assign hgap (by decide)
  | step gap v rest hgap hv ih =>
    rw [assignAfterVowel_vowel hgap hv]
    exact (nucleiAreVowels_divide hgap).append (ih.vowel hv)

/-- In a word with a vowel, the vowels are the nuclei. -/
theorem nucleiAreVowels_assignWord {word : List Element} (h : word.any Element.isVowel = true) :
    NucleiAreVowels (assignWord word) := by
  obtain ⟨lead, v, rest, rfl, hlead, hv⟩ := exists_first_vowel h
  rw [assignWord_vowel hlead hv]
  exact (nucleiAreVowels_assign hlead (by decide)).append
    ((nucleiAreVowels_assignAfterVowel rest).vowel hv)

end Nuclei

/-! ### Word by word -/

theorem unbroken_assign {k : Constituent} {t : List Element} :
    Unbroken (assign k t) ↔ Unbroken t := by
  have hbreak : ∀ e : Element, (e.withConstituent k).isWordBreak = e.isWordBreak := by
    intro e
    cases e <;> rfl
  simp [Unbroken, assign, hbreak]

theorem unbroken_assignWord {word : List Element} (h : Unbroken word) :
    Unbroken (assignWord word) := by
  rwa [← unbroken_assign (k := .unknown), assign_assignWord, unbroken_assign]

theorem syllabifyFrom_append {word : Transcription} (h : Unbroken word) (rest : Transcription) :
    ∀ seen, syllabifyFrom seen (word ++ rest) = syllabifyFrom (word.reverse ++ seen) rest := by
  induction word with
  | nil => exact fun _ => rfl
  | cons e word ih =>
    intro seen
    obtain ⟨he, hword⟩ := List.forall_mem_cons.mp h
    rw [List.cons_append, syllabifyFrom, if_neg (by simp [he]), ih hword, List.reverse_cons,
      List.append_assoc, List.singleton_append]

/-- The stretches between breaks get the default constituents one by one. -/
theorem parts_syllabify (t : Transcription) : (syllabify t).parts = t.parts.map assignWord := by
  induction t using word_induction with
  | last word hword =>
    have hseen := syllabifyFrom_append hword [] []
    rw [List.append_nil, List.append_nil, syllabifyFrom, List.reverse_reverse] at hseen
    rw [syllabify, hseen, parts_unbroken hword, parts_unbroken (unbroken_assignWord hword)]
    rfl
  | step word e rest hword he ih =>
    rw [syllabify, syllabifyFrom_append hword, List.append_nil, syllabifyFrom, if_pos he,
      List.reverse_reverse, ← syllabify, parts_break (unbroken_assignWord hword) he, ih,
      parts_break hword he]
    rfl

/-- Where no constituents are written, the words of what is read have the default ones. -/
theorem exists_assignWord {table : FeatureTable} {text : Text} {t : Transcription}
    (hread : read table text = .ok t) (hfree : ∀ k ∈ tokens text, k.2.isConstituent = false)
    {w : Span} (hw : w ∈ t.wordSpans) :
    ∃ word, Unbroken word ∧ t.subsection w = assignWord word := by
  obtain ⟨done, -, -, -, -, -, rfl⟩ := exists_legible_of_read hread
  have hnone : (tokens text).any (·.2.isConstituent) = false :=
    List.any_eq_false.mpr fun k hk => by simp [hfree k hk]
  rw [hnone, if_neg Bool.false_ne_true] at hw ⊢
  have hpart : (syllabify done.reverse).subsection w ∈ (syllabify done.reverse).parts := by
    have hmem := List.mem_map_of_mem (f := (syllabify done.reverse).subsection) hw
    rw [map_subsection_wordSpans] at hmem
    exact (List.mem_filter.mp hmem).1
  rw [parts_syllabify] at hpart
  obtain ⟨word, hword, heq⟩ := List.mem_map.mp hpart
  exact ⟨word, unbroken_of_mem_parts _ word hword, heq.symm⟩

/-! ### The syllables of a word -/

/-- A syllable lies in a word if it has the number of it, and apart from the word otherwise. -/
theorem syllable_word_cases {t : Transcription} {k : Nat} {w : Span}
    (hw : t.wordSpans[k]? = some w) {s : Syllable} (hs : s ∈ t.syllables) :
    s.word = k ∧ w.start ≤ s.span.start ∧ s.span.stop ≤ w.stop ∨
      s.word ≠ k ∧ (s.span.stop < w.start ∨ w.stop < s.span.start) := by
  obtain ⟨v, hv, hstart, hstop⟩ := t.syllables_inWord s hs
  rcases Nat.lt_trichotomy s.word k with hlt | rfl | hlt
  · have hapart := rel_of_getElem? t.wordSpans_apart hlt hv hw
    exact .inr ⟨Nat.ne_of_lt hlt, .inl (Nat.lt_of_le_of_lt hstop hapart)⟩
  · obtain rfl := Option.some.inj (hv.symm.trans hw)
    exact .inl ⟨rfl, hstart, hstop⟩
  · have hapart := rel_of_getElem? t.wordSpans_apart hlt hw hv
    exact .inr ⟨Nat.ne_of_gt hlt, .inr (Nat.lt_of_lt_of_le hapart hstart)⟩

/-- The syllables with the number of a word are those of that part of the transcription. -/
theorem placedSyllables_word {t : Transcription} {k : Nat} {w : Span}
    (hw : t.wordSpans[k]? = some w) : placedSyllables w.start (t.subsection w) =
      (t.syllables.filter (·.word = k)).map fun s => (s.span, s.stress) := by
  obtain ⟨hlt, hle⟩ := wordSpans_within t w (List.mem_of_getElem? hw)
  rw [placedSyllables_subsection (Nat.le_of_lt hlt) hle, placedSyllables_zero, List.filter_map]
  · refine congrArg (List.map _) (List.filter_congr fun s hs => ?_)
    have hpos := t.syllables_nonempty s hs
    rw [Bool.eq_iff_iff, decide_eq_true_eq, Function.comp_apply, Span.encloses_iff]
    rcases syllable_word_cases hw hs with ⟨hword, hin⟩ | ⟨hword, hout⟩
    · exact iff_of_true hin hword
    · refine iff_of_false (fun hin => ?_) hword
      simp only at hin
      omega
  · intro s hs
    have hpos := t.syllables_nonempty s hs
    unfold Span.Splits
    rcases syllable_word_cases hw hs with ⟨-, hin⟩ | ⟨-, hout⟩
    · omega
    · omega

/-- The elements of a syllable stand where it does. -/
theorem Cuts.subsection {i : Nat} {part : Transcription} {cuts : List Cut} (h : Cuts i part cuts) :
    ∀ before after : Transcription, before.length = i →
      ∀ c ∈ cuts, (before ++ (part ++ after)).subsection c.span = c.elements := by
  induction h with
  | nil => exact fun _ _ _ => List.forall_mem_nil _
  | @outside i e t cuts _ _ ih =>
    intro before after hbefore c hc
    have hin := ih (before ++ [e]) after (by simp [hbefore]) c hc
    rwa [List.append_assoc, List.singleton_append] at hin
  | @syllable t cuts c _ _ _ ih =>
    intro before after hbefore c' hc'
    rcases List.mem_cons.mp hc' with rfl | hc'
    · rw [Cut.span, ← hbefore, List.append_assoc, ← List.append_assoc, subsection_middle]
    · have hin := ih (before ++ c.elements) after (by simp [hbefore]) c' hc'
      rwa [List.append_assoc, ← List.append_assoc c.elements] at hin

theorem phones_syllableElements (mark : Option Stress) (phones : List Phone) :
    (syllableElements mark phones).phones = phones := by
  have hphones : (phones.map Element.phone).filterMap Element.phone? = phones := by
    rw [List.filterMap_map]
    exact List.filterMap_some
  cases mark with
  | none => exact hphones
  | some mark => exact hphones

/-- How many runs of vowels there are does not depend on constituents. -/
theorem vowelRuns_assign (k : Constituent) (t : List Element) :
    vowelRuns (assign k t) = vowelRuns t := by
  have hsplit : ∀ t : List Element, (assign k t).splitOnP (fun e => !e.isVowel) =
      (t.splitOnP fun e => !e.isVowel).map (assign k) := by
    intro t
    induction t with
    | nil => rfl
    | cons e t ih =>
      rw [assign_cons, List.splitOnP_cons_eq_if_modifyHead, List.splitOnP_cons_eq_if_modifyHead, ih,
        Element.isVowel_withConstituent]
      split
      · rfl
      · cases t.splitOnP fun e => !e.isVowel <;> rfl
  rw [vowelRuns, hsplit, List.countP_map, vowelRuns]
  refine List.countP_congr fun part _ => ?_
  simp [assign]

/-- The phones of a syllable. -/
def phonesOf (t : Transcription) (s : Syllable) : List Phone := (t.subsection s.span).phones

/-- The syllables with the number of a word have the phones that the word is cut into. -/
theorem Cuts.map_phonesOf {t : Transcription} {k : Nat} {w : Span}
    (hw : t.wordSpans[k]? = some w) {cuts : List Cut} (h : Cuts w.start (t.subsection w) cuts) :
    (t.syllables.filter (·.word = k)).map t.phonesOf = cuts.map Cut.phones := by
  obtain ⟨hlt, hle⟩ := wordSpans_within t w (List.mem_of_getElem? hw)
  have hspans : (t.syllables.filter (·.word = k)).map (·.span) = cuts.map Cut.span := by
    have hplaced := (placedSyllables_word hw).symm.trans h.placed_eq
    simpa [Function.comp_def, Cut.placed] using congrArg (List.map Prod.fst) hplaced
  have hsplit : t.take w.start ++ (t.subsection w ++ t.drop w.stop) = t := by
    rw [← List.append_assoc, take_append_subsection (Nat.le_of_lt hlt), List.take_append_drop]
  have hphones : ∀ c ∈ cuts, (t.subsection c.span).phones = c.phones := by
    intro c hc
    have hin := h.subsection (t.take w.start) (t.drop w.stop)
      (by rw [List.length_take]; omega) c hc
    rw [hsplit] at hin
    rw [hin, Cut.elements, phones_syllableElements]
  calc (t.syllables.filter (·.word = k)).map t.phonesOf
    _ = ((t.syllables.filter (·.word = k)).map (·.span)).map fun s => (t.subsection s).phones := by
      rw [List.map_map]
      rfl
    _ = cuts.map fun c => (t.subsection c.span).phones := by
      rw [hspans, List.map_map]
      rfl
    _ = cuts.map Cut.phones := List.map_congr_left hphones

/-- **The shape of default syllables.**  In every text that is read and says nothing about
constituents, each syllable of a word with a vowel is made of onsets, nuclei and codas, in this
order, and the nuclei of the word are its vowels.  If the word has no marks of stress and no
syllable boundaries, each of its syllables has a nucleus, they are as many as the word has runs of
vowels, and each but the first has one or two onsets. -/
theorem default_syllables {table : FeatureTable} {text : Text} {t : Transcription}
    (hread : read table text = .ok t) (hfree : ∀ k ∈ tokens text, k.2.isConstituent = false)
    {k : Nat} {w : Span} (hw : t.wordSpans[k]? = some w)
    (hvowel : (t.subsection w).any Element.isVowel = true) :
    (∀ s ∈ t.syllables.filter (·.word = k), ∃ onsets nuclei codas,
      Spells (t.phonesOf s) onsets nuclei codas) ∧
    (∀ p ∈ (t.subsection w).phones, p.constituent = .nucleus ↔ p.isVowel = true) ∧
    ((t.subsection w).any Element.isTransparent = false →
      (∀ s ∈ t.syllables.filter (·.word = k), ∃ onsets nuclei codas,
        0 < nuclei ∧ Spells (t.phonesOf s) onsets nuclei codas) ∧
      (t.syllables.filter (·.word = k)).length = vowelRuns (t.subsection w) ∧
      ∀ s ∈ (t.syllables.filter (·.word = k)).tail, ∃ onsets nuclei codas,
        (onsets = 1 ∨ onsets = 2) ∧ Spells (t.phonesOf s) onsets nuclei codas) := by
  obtain ⟨word, hword, heq⟩ := exists_assignWord hread hfree (List.mem_of_getElem? hw)
  have hvowelWord : word.any Element.isVowel = true := by
    rwa [heq, ← any_isVowel_assign .unknown, assign_assignWord, any_isVowel_assign] at hvowel
  obtain ⟨cuts, hcuts, hshaped, hplain⟩ := exists_cuts_assignWord hword hvowelWord w.start
  rw [← heq] at hcuts
  have hsyllables := hcuts.map_phonesOf hw
  have hcut : ∀ {syllables : List Syllable} {some : List Cut},
      syllables.map t.phonesOf = some.map Cut.phones →
      ∀ s ∈ syllables, ∃ c ∈ some, c.phones = t.phonesOf s :=
    fun hmap s hs => List.mem_map.mp (hmap ▸ List.mem_map_of_mem hs)
  refine ⟨fun s hs => ?_, fun p hp => ?_, fun hmarks => ?_⟩
  · obtain ⟨c, hc, hsame⟩ := hcut hsyllables s hs
    exact hsame ▸ hshaped c hc
  · obtain ⟨e, he, hphone⟩ := List.mem_filterMap.mp hp
    rw [heq] at he
    refine nucleiAreVowels_assignWord hvowelWord p ?_
    cases e with
    | phone q =>
      obtain rfl := Option.some.inj hphone
      exact he
    | stress _ | syllableBoundary | wordBoundary | pause _ => cases hphone
  · rw [heq, ← any_isTransparent_assign .unknown, assign_assignWord,
      any_isTransparent_assign] at hmarks
    obtain ⟨hlength, hnuclei, hheaded⟩ := hplain hmarks
    refine ⟨fun s hs => ?_, ?_, fun s hs => ?_⟩
    · obtain ⟨c, hc, hsame⟩ := hcut hsyllables s hs
      obtain ⟨onsets, nuclei, codas, hspells⟩ := hnuclei c hc
      exact ⟨onsets, nuclei + 1, codas, Nat.succ_pos _, hsame ▸ hspells⟩
    · have hcount := congrArg List.length hsyllables
      rw [List.length_map, List.length_map, hlength] at hcount
      rw [hcount, heq, ← vowelRuns_assign .unknown (assignWord word), assign_assignWord,
        vowelRuns_assign]
    · have htail : (t.syllables.filter (·.word = k)).tail.map t.phonesOf =
          cuts.tail.map Cut.phones := by
        rw [List.map_tail, List.map_tail, hsyllables]
      obtain ⟨c, hc, hsame⟩ := hcut htail s hs
      obtain ⟨onsets, nuclei, codas, honsets, hspells⟩ := hheaded c hc
      exact ⟨onsets, nuclei + 1, codas, honsets, hsame ▸ hspells⟩

theorem default_syllables_three : ∃ t, read .builtin "ˈsi kastɹapain".toList = .ok t ∧
    (∀ k ∈ tokens "ˈsi kastɹapain".toList, k.2.isConstituent = false) ∧
    t.wordSpans[1]? = some ⟨4, 14⟩ ∧ (t.subsection ⟨4, 14⟩).any Element.isVowel = true ∧
    (t.subsection ⟨4, 14⟩).any Element.isTransparent = false ∧
    (t.syllables.filter (·.word = 1)).map (·.span) = [⟨4, 7⟩, ⟨7, 10⟩, ⟨10, 14⟩] ∧
    ∀ s ∈ (t.syllables.filter (·.word = 1)).tail, ∃ onsets nuclei codas,
      (onsets = 1 ∨ onsets = 2) ∧ Spells (t.phonesOf s) onsets nuclei codas := by
  have hread : read .builtin "ˈsi kastɹapain".toList = .ok _ := rfl
  refine ⟨_, hread, ?free, ?word, ?vowel, ?plain, ?spans,
    ((default_syllables hread ?free ?word ?vowel).2.2 ?plain).2.2⟩
  all_goals decide +kernel

end PhoneticSearch.Transcription
