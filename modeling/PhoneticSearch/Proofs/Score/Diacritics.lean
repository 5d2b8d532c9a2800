import PhoneticSearch.Proofs.Score.Intersection
import PhoneticSearch.Proofs.Transcription.Bare

/-!
# Scores without diacritics

Phones are compared without their diacritics, or the diacritics are taken from the transcriptions
first: the scores are the same (`AlignedScore.ofGroup_bare`, `StandardScore.ofGroup_bare`), since
diacritics are in the texts of phones only.

Phones that are written alike have the same base glyphs, so a phone that is correct with its
diacritics is correct without them.  The keys of a side with diacritics are mapped to those
without, and the image of an intersection lies in the intersection of the images; that is why the
standard score is not lowered either, though keys fall together.
-/

namespace PhoneticSearch

/-- A group whose transcriptions have no diacritics. -/
def Group.withoutDiacritics (g : Group) : Group :=
  { g with target := g.target.withoutDiacritics, actual := g.actual.withoutDiacritics }

/-- The phones that are scored are the same without diacritics. -/
theorem Transcription.scored_withoutDiacritics (t : Transcription) (features : FeatureSet) :
    t.withoutDiacritics.scored features =
      (t.scored features).map fun (i, p) => (i, p.bare) := by
  rw [scored, scored, phonePositions_withoutDiacritics, List.map_filterMap]
  refine List.filterMap_congr fun i _ => ?_
  rw [phoneAt?_withoutDiacritics]
  cases t.phoneAt? i with
  | none => rfl
  | some p =>
    have hfeatures : p.bare.features = p.features := rfl
    by_cases h : p.features.intersects features = true <;> simp [h, hfeatures]

/-- What is compared of phones without diacritics. -/
theorem Phone.key_bare (p : Phone) : p.bare.key false = p.key true := rfl

/-- Phones that are written alike have the same base glyphs. -/
theorem base_eq_of_text_eq {table : FeatureTable} {p q : Phone}
    (hp : (p.withConstituent .unknown).Spelled table)
    (hq : (q.withConstituent .unknown).Spelled table) (h : p.text = q.text) : p.base = q.base := by
  have heq : p.withConstituent .unknown = q.withConstituent .unknown :=
    Transcription.eq_of_text_eq hp hq h
  have hbase := congrArg Phone.base heq
  exact hbase

/-! ### The aligned score -/

namespace AlignedScore

variable {table : FeatureTable} {g : Group}

theorem counterpart?_bare (g : Group) (i : Nat) :
    counterpart? g.withoutDiacritics i = (counterpart? g i).map Phone.bare := by
  rw [counterpart?, counterpart?, Option.map_bind]
  exact Option.bind_congr fun j _ => g.actual.phoneAt?_withoutDiacritics j

/-- Without diacritics the aligned score is that of the bare transcriptions. -/
theorem ofGroup_bare (g : Group) (features : FeatureSet) :
    ofGroup g.withoutDiacritics features false = ofGroup g features true := by
  have htarget : g.withoutDiacritics.target.scored features = _ :=
    g.target.scored_withoutDiacritics features
  have hactual : g.withoutDiacritics.actual.scored features = _ :=
    g.actual.scored_withoutDiacritics features
  have hpartner : ∀ side i, g.withoutDiacritics.alignment.partner? side i =
    g.alignment.partner? side i := fun _ _ => rfl
  simp only [ofGroup, htarget, hactual, hpartner, counterpart?_bare, List.countP_map,
    List.length_map, Function.comp_def, Option.any_map, Option.isNone_map, Phone.key_bare]

/-- Phones that are equal with their diacritics are equal without. -/
theorem correct_le_bare (h : g.Comparable table) (features : FeatureSet) :
    (ofGroup g features false).correct ≤ (ofGroup g features true).correct := by
  refine List.countP_mono_left fun ⟨i, p⟩ hp hcorrect => ?_
  simp only [counterpart?, Option.any_eq_true, Option.bind_eq_some_iff, beq_iff_eq]
    at hcorrect ⊢
  obtain ⟨q, ⟨j, hj, hq⟩, htext⟩ := hcorrect
  have hspelled := h.spelled .target i p (Transcription.mem_scored.mp hp).1
  exact ⟨q, ⟨j, hj, hq⟩, base_eq_of_text_eq hspelled (h.spelled .actual j q hq) htext⟩

end AlignedScore

/-! ### The standard score -/

namespace StandardScore

variable {table : FeatureTable} {g : Group}

theorem scoredKeys_withoutDiacritics (t : Transcription) (features : FeatureSet) :
    t.withoutDiacritics.scoredKeys features false = t.scoredKeys features true := by
  rw [Transcription.scoredKeys, Transcription.scored_withoutDiacritics, List.map_map]
  rfl

/-- Without diacritics the standard score is that of the bare transcriptions. -/
theorem ofGroup_bare (g : Group) (features : FeatureSet) :
    ofGroup g.withoutDiacritics features false = ofGroup g features true := by
  rw [ofGroup_eq, ofGroup_eq]
  simp only [Group.withoutDiacritics, scoredKeys_withoutDiacritics]

/-- The base glyphs of a phone are determined by its text. -/
theorem exists_baseOf (table : FeatureTable) : ∃ baseOf : Text → Text,
    ∀ p : Phone, (p.withConstituent .unknown).Spelled table → p.base = baseOf p.text := by
  have hbase : ∀ text, ∃ base, ∀ p : Phone, (p.withConstituent .unknown).Spelled table →
      p.text = text → p.base = base := by
    intro text
    by_cases h : ∃ q : Phone, (q.withConstituent .unknown).Spelled table ∧ q.text = text
    · obtain ⟨q, hq, rfl⟩ := h
      exact ⟨q.base, fun p hp htext => base_eq_of_text_eq hp hq htext⟩
    · exact ⟨[], fun p hp htext => absurd ⟨p, hp, htext⟩ h⟩
  choose baseOf hbaseOf using hbase
  exact ⟨baseOf, fun p hp => hbaseOf p.text p hp rfl⟩

theorem card_inter_le_card_map (f : Text → Text) (s t : Multiset Text) :
    Multiset.card (s ∩ t) ≤ Multiset.card (s.map f ∩ t.map f) := by
  rw [← Multiset.card_map f (s ∩ t)]
  exact Multiset.card_le_card (Multiset.le_inter (Multiset.map_le_map Multiset.inter_le_left)
    (Multiset.map_le_map Multiset.inter_le_right))

theorem correct_le_bare (h : g.Comparable table) (features : FeatureSet) :
    (ofGroup g features false).correct ≤ (ofGroup g features true).correct := by
  obtain ⟨baseOf, hbaseOf⟩ := exists_baseOf table
  have hkeys : ∀ side, (g.transcription side).scoredKeys features true =
      ((g.transcription side).scoredKeys features false).map baseOf := by
    intro side
    rw [Transcription.scoredKeys, Transcription.scoredKeys, List.map_map]
    refine List.map_congr_left fun x hx => ?_
    exact hbaseOf x.2 (h.spelled side x.1 x.2 (Transcription.mem_scored.mp hx).1)
  have hcard := card_inter_le_card_map baseOf (g.target.scoredKeys features false)
    (g.actual.scoredKeys features false)
  rw [Multiset.map_coe, Multiset.map_coe] at hcard
  rw [ofGroup_eq, ofGroup_eq]
  exact hkeys .target ▸ hkeys .actual ▸ hcard

end StandardScore

/-! ### Both scores -/

/-- **Scores without diacritics.**  Scoring a group without diacritics is scoring it with its
transcriptions bare, which have the same places, words, syllables, stress patterns and symbols.
In the scores of a group that was read the number of correct phones is not lowered by it, and
nothing else is changed. -/
theorem score_withoutDiacritics {table : FeatureTable} {w : Corpus.WrittenGroup} {g : Group}
    (h : w.build table = .ok g) (features : FeatureSet) :
    (AlignedScore.ofGroup g features true = AlignedScore.ofGroup g.withoutDiacritics features false ∧
      StandardScore.ofGroup g features true =
        StandardScore.ofGroup g.withoutDiacritics features false) ∧
    (∀ t : Transcription, t.withoutDiacritics.length = t.length ∧
      t.withoutDiacritics.wordSpans = t.wordSpans ∧
      t.withoutDiacritics.syllables = t.syllables ∧
      t.withoutDiacritics.stressPattern = t.stressPattern ∧
      ∀ kind, Sequence.spelling kind t.withoutDiacritics = Sequence.spelling kind t) ∧
    ((AlignedScore.ofGroup g features false).correct ≤
        (AlignedScore.ofGroup g features true).correct ∧
      AlignedScore.ofGroup g features true = { AlignedScore.ofGroup g features false with
        correct := (AlignedScore.ofGroup g features true).correct }) ∧
    ((StandardScore.ofGroup g features false).correct ≤
        (StandardScore.ofGroup g features true).correct ∧
      StandardScore.ofGroup g features true = { StandardScore.ofGroup g features false with
        correct := (StandardScore.ofGroup g features true).correct }) := by
  have hcomparable := Corpus.WrittenGroup.comparable h
  refine ⟨⟨(AlignedScore.ofGroup_bare g features).symm, (StandardScore.ofGroup_bare g features).symm⟩,
    fun t => ?_, ⟨AlignedScore.correct_le_bare hcomparable features, rfl⟩,
    ⟨StandardScore.correct_le_bare hcomparable features, ?_⟩⟩
  · refine ⟨t.length_withoutDiacritics, t.wordSpans_withoutDiacritics,
      t.syllables_withoutDiacritics, t.stressPattern_withoutDiacritics, fun kind => ?_⟩
    rw [Sequence.spelling, Sequence.spelling, Transcription.symbols_withoutDiacritics]
  · simp [StandardScore.ofGroup]

/-- The aspirated phone has its match without diacritics only. -/
theorem score_withoutDiacritics_tack : ∃ g,
    StandardScore.tackWritten.build .builtin = .ok g ∧
    StandardScore.ofGroup g (.ofList [.consonant, .vowel]) false = ⟨2, 3, 4⟩ ∧
    StandardScore.ofGroup g.withoutDiacritics (.ofList [.consonant, .vowel]) false = ⟨3, 3, 4⟩ ∧
    2 ≤ 3 := by
  obtain ⟨g, hbuild, hwith, hwithout⟩ : ∃ g, StandardScore.tackWritten.build .builtin = .ok g ∧
      StandardScore.ofGroup g (.ofList [.consonant, .vowel]) false = ⟨2, 3, 4⟩ ∧
      StandardScore.ofGroup g (.ofList [.consonant, .vowel]) true = ⟨3, 3, 4⟩ :=
    ⟨_, rfl, by decide +kernel, by decide +kernel⟩
  obtain ⟨⟨-, hbare⟩, -, -, hcorrect, -⟩ :=
    score_withoutDiacritics hbuild (.ofList [.consonant, .vowel])
  rw [hwith, hwithout] at hcorrect
  exact ⟨g, hbuild, hwith, hbare.symm.trans hwithout, hcorrect⟩

end PhoneticSearch
