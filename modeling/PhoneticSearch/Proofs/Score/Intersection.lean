import Mathlib.Algebra.BigOperators.Finprod
import PhoneticSearch.Proofs.Score.Duality

/-!
# The standard score is an intersection

The standard score takes the scored phones of both sides as multisets of keys.  Counting
the keys of one side against those that are left of the other one gives the size of their
intersection (`matched_eq_card_inter`), in which each key counts as often as on the side
that has fewer of it (`card_inter_eq_finsum`).  So the order of the phones does not matter,
nor which side is which.

A target phone that is aligned with an equal phone has a key in the intersection: the keys
of all of them are among the keys of either side (`map_keyAt_le_actual`).  That is why the
aligned score has no more correct phones than the standard one.
-/

namespace PhoneticSearch

namespace Transcription

variable {t t' : Transcription} {features : FeatureSet} {ignoreDiacritics : Bool}

/-- The number of phones with one of some features that are compared by a key. -/
def scoredCount (t : Transcription) (features : FeatureSet) (ignoreDiacritics : Bool)
    (key : Text) : Nat :=
  t.phones.countP fun p => p.features.intersects features && p.key ignoreDiacritics == key

/-- The keys of the phones with one of some features. -/
def scoredKeys (t : Transcription) (features : FeatureSet) (ignoreDiacritics : Bool) : List Text :=
  (t.scored features).map fun (_, p) => p.key ignoreDiacritics

theorem scoredKeys_eq (t : Transcription) (features : FeatureSet) (ignoreDiacritics : Bool) :
    t.scoredKeys features ignoreDiacritics =
      (t.phones.filter (·.features.intersects features)).map (·.key ignoreDiacritics) := by
  have hphones : (t.scored features).map (·.2) =
      t.phones.filter (·.features.intersects features) := by
    rw [scored, List.map_filterMap, ← filterMap_phonePositions, List.filter_filterMap]
    refine List.filterMap_congr fun i _ => ?_
    cases t.phoneAt? i with
    | none => rfl
    | some p => by_cases h : p.features.intersects features = true <;> simp [Option.filter, h]
  rw [scoredKeys, ← hphones, List.map_map]
  rfl

theorem count_scoredKeys (key : Text) :
    (t.scoredKeys features ignoreDiacritics : Multiset Text).count key =
      t.scoredCount features ignoreDiacritics key := by
  rw [scoredKeys_eq, Multiset.coe_count]
  unfold List.count
  rw [List.countP_map, List.countP_filter]
  refine List.countP_congr fun p _ => ?_
  simp [and_comm]

theorem scoredKeys_perm (h : t.phones.Perm t'.phones) :
    (t.scoredKeys features ignoreDiacritics).Perm (t'.scoredKeys features ignoreDiacritics) := by
  rw [scoredKeys_eq, scoredKeys_eq]
  exact (h.filter _).map _

/-- The key of the phone at a position; the empty text if there is none. -/
def keyAt (t : Transcription) (ignoreDiacritics : Bool) (i : Nat) : Text :=
  (t.phoneAt? i).elim [] (·.key ignoreDiacritics)

theorem scoredKeys_eq_map_keyAt (t : Transcription) (features : FeatureSet)
    (ignoreDiacritics : Bool) : t.scoredKeys features ignoreDiacritics =
      ((t.scored features).map (·.1)).map (t.keyAt ignoreDiacritics) := by
  rw [scoredKeys, List.map_map]
  refine List.map_congr_left fun ⟨i, p⟩ hp => ?_
  simp [keyAt, (mem_scored.mp hp).1]

end Transcription

/-! ### Multisets of keys -/

namespace StandardScore

/-- Each key that finds an equal one is in both multisets, and it is taken out of them. -/
theorem matched_eq_card_inter : ∀ right left : List Text,
    matched left right = Multiset.card ((right : Multiset Text) ∩ left) := by
  intro right
  induction right with
  | nil => intro left; simp [matched]
  | cons key right ih =>
    intro left
    rw [matched, ← Multiset.cons_coe]
    by_cases h : key ∈ left
    · have hleft : (left : Multiset Text) = key ::ₘ (left.erase key : List Text) :=
        Multiset.coe_eq_coe.mpr (List.perm_cons_erase h)
      rw [if_pos (List.contains_iff_mem.mpr h), ih, hleft,
        Multiset.cons_inter_of_pos _ (Multiset.mem_cons_self key _), Multiset.erase_cons_head,
        Multiset.card_cons]
    · have hmem : key ∉ (left : Multiset Text) := h
      rw [if_neg (mt List.contains_iff_mem.mp h), ih, Multiset.cons_inter_of_neg _ hmem]

/-- An intersection has each key as often as the multiset that has fewer of it. -/
theorem card_inter_eq_finsum (s t : Multiset Text) :
    Multiset.card (s ∩ t) = ∑ᶠ key, min (s.count key) (t.count key) := by
  have hsupport : (fun key => min (s.count key) (t.count key)).support ⊆ (s ∩ t).toFinset := by
    intro key hkey
    have hpos : 0 < (s ∩ t).count key := by
      rw [Multiset.count_inter]
      exact Nat.pos_of_ne_zero hkey
    exact Multiset.mem_toFinset.mpr (Multiset.count_pos.mp hpos)
  rw [finsum_eq_finsetSum_of_support_subset _ hsupport, ← Multiset.toFinset_sum_count_eq]
  exact Finset.sum_congr rfl fun key _ => Multiset.count_inter key s t

variable {table : FeatureTable} {g : Group} {features : FeatureSet} {ignoreDiacritics : Bool}

/-- A score with its sides exchanged. -/
def exchanged (s : StandardScore) : StandardScore := ⟨s.correct, s.actual, s.target⟩

/-- The score of a group by its multisets of keys. -/
theorem ofGroup_eq (g : Group) (features : FeatureSet) (ignoreDiacritics : Bool) :
    ofGroup g features ignoreDiacritics =
      { correct := Multiset.card
          ((g.target.scoredKeys features ignoreDiacritics : Multiset Text) ∩
            (g.actual.scoredKeys features ignoreDiacritics : Multiset Text))
        target := (g.target.scoredKeys features ignoreDiacritics).length
        actual := (g.actual.scoredKeys features ignoreDiacritics).length } := by
  rw [Multiset.inter_comm, ← matched_eq_card_inter]
  rfl

theorem ofGroup_exchanged (g : Group) (features : FeatureSet) (ignoreDiacritics : Bool) :
    ofGroup g.exchanged features ignoreDiacritics =
      (ofGroup g features ignoreDiacritics).exchanged := by
  rw [ofGroup_eq, ofGroup_eq, exchanged, Multiset.inter_comm]
  rfl

theorem correct_eq_finsum (g : Group) (features : FeatureSet) (ignoreDiacritics : Bool) :
    (ofGroup g features ignoreDiacritics).correct =
      ∑ᶠ key, min (g.target.scoredCount features ignoreDiacritics key)
        (g.actual.scoredCount features ignoreDiacritics key) := by
  rw [ofGroup_eq, card_inter_eq_finsum]
  refine finsum_congr fun key => ?_
  rw [Transcription.count_scoredKeys, Transcription.count_scoredKeys]

theorem ofGroup_congr_perm {g' : Group} (htarget : g'.target.phones.Perm g.target.phones)
    (hactual : g'.actual.phones.Perm g.actual.phones) (features : FeatureSet)
    (ignoreDiacritics : Bool) :
    ofGroup g' features ignoreDiacritics = ofGroup g features ignoreDiacritics := by
  have hkeys (t t' : Transcription) (h : t'.phones.Perm t.phones) :
      (t'.scoredKeys features ignoreDiacritics : Multiset Text) =
        (t.scoredKeys features ignoreDiacritics : Multiset Text) :=
    Multiset.coe_eq_coe.mpr (Transcription.scoredKeys_perm h)
  rw [ofGroup_eq, ofGroup_eq, hkeys _ _ htarget, hkeys _ _ hactual,
    (Transcription.scoredKeys_perm htarget).length_eq,
    (Transcription.scoredKeys_perm hactual).length_eq]

/-! ### Aligned phones that are equal -/

open AlignedScore (correctPositions)

/-- The keys of correct phones are among those of all scored phones. -/
theorem map_keyAt_le (g : Group) (features : FeatureSet) (ignoreDiacritics : Bool) :
    ((correctPositions g features ignoreDiacritics).map (g.target.keyAt ignoreDiacritics) :
        Multiset Text) ≤ g.target.scoredKeys features ignoreDiacritics := by
  rw [Transcription.scoredKeys_eq_map_keyAt]
  exact Multiset.coe_le.mpr ((List.filter_sublist.map _).map _).subperm

/-- The keys of correct phones are those of their partners. -/
theorem map_keyAt_le_actual (h : g.Comparable table) :
    ((correctPositions g features ignoreDiacritics).map (g.target.keyAt ignoreDiacritics) :
        Multiset Text) ≤ g.actual.scoredKeys features ignoreDiacritics := by
  obtain ⟨partner, hpartner, hpartners⟩ :=
    AlignedScore.exists_partners h features ignoreDiacritics
  have hkeys : (correctPositions g features ignoreDiacritics).map
        (g.target.keyAt ignoreDiacritics) =
      ((correctPositions g features ignoreDiacritics).map partner).map
        (g.actual.keyAt ignoreDiacritics) := by
    rw [List.map_map]
    refine List.map_congr_left fun i hi => ?_
    obtain ⟨p, j, q, hp, -, hj, hq, hkey⟩ := AlignedScore.mem_correctPositions.mp hi
    obtain rfl : j = partner i := Option.some.inj (hj.symm.trans (hpartner i hi))
    simpa [Transcription.keyAt, hp, hq] using hkey
  calc ((correctPositions g features ignoreDiacritics).map
        (g.target.keyAt ignoreDiacritics) : Multiset Text)
      = ((correctPositions g features ignoreDiacritics).map partner : Multiset Nat).map
          (g.actual.keyAt ignoreDiacritics) := by rw [hkeys, Multiset.map_coe]
    _ ≤ (correctPositions g.exchanged features ignoreDiacritics : Multiset Nat).map
          (g.actual.keyAt ignoreDiacritics) :=
        Multiset.map_le_map (Multiset.coe_le.mpr hpartners)
    _ ≤ g.actual.scoredKeys features ignoreDiacritics :=
        map_keyAt_le g.exchanged features ignoreDiacritics

/-- The keys of correct phones are in the intersection. -/
theorem aligned_correct_le (h : g.Comparable table) :
    (AlignedScore.ofGroup g features ignoreDiacritics).correct ≤
      (ofGroup g features ignoreDiacritics).correct := by
  have hinter := Multiset.card_le_card
    (Multiset.le_inter (map_keyAt_le g features ignoreDiacritics) (map_keyAt_le_actual h))
  rw [Multiset.coe_card, List.length_map, AlignedScore.length_correctPositions] at hinter
  rwa [ofGroup_eq]

theorem aligned_counts (g : Group) (features : FeatureSet) (ignoreDiacritics : Bool) :
    (AlignedScore.ofGroup g features ignoreDiacritics).target =
        (ofGroup g features ignoreDiacritics).target ∧
      (AlignedScore.ofGroup g features ignoreDiacritics).actual =
        (ofGroup g features ignoreDiacritics).actual :=
  ⟨(List.length_map _).symm, (List.length_map _).symm⟩

theorem correct_le (g : Group) (features : FeatureSet) (ignoreDiacritics : Bool) :
    (ofGroup g features ignoreDiacritics).correct ≤
        (ofGroup g features ignoreDiacritics).target ∧
      (ofGroup g features ignoreDiacritics).correct ≤
        (ofGroup g features ignoreDiacritics).actual := by
  rw [ofGroup_eq]
  dsimp only
  rw [← Multiset.coe_card, ← Multiset.coe_card]
  exact ⟨Multiset.card_le_card Multiset.inter_le_left,
    Multiset.card_le_card Multiset.inter_le_right⟩

/-- The standard score of a group that was read counts each key as often as on the side that
has fewer phones with it.  It does not depend on the order of the phones or on which side is
which, is bounded by both sides, and has as many correct phones as the aligned score of the
same phones, or more. -/
theorem correct_intersection {w : Corpus.WrittenGroup} (h : w.build table = .ok g)
    (features : FeatureSet) (ignoreDiacritics : Bool) :
    (ofGroup g features ignoreDiacritics).correct =
        ∑ᶠ key, min (g.target.scoredCount features ignoreDiacritics key)
          (g.actual.scoredCount features ignoreDiacritics key) ∧
      (∀ g' : Group, g'.target.phones.Perm g.target.phones →
        g'.actual.phones.Perm g.actual.phones →
        ofGroup g' features ignoreDiacritics = ofGroup g features ignoreDiacritics) ∧
      ofGroup g.exchanged features ignoreDiacritics =
        (ofGroup g features ignoreDiacritics).exchanged ∧
      (ofGroup g features ignoreDiacritics).correct ≤
        min (ofGroup g features ignoreDiacritics).target
          (ofGroup g features ignoreDiacritics).actual ∧
      (AlignedScore.ofGroup g features ignoreDiacritics).correct ≤
        (ofGroup g features ignoreDiacritics).correct ∧
      (AlignedScore.ofGroup g features ignoreDiacritics).target =
        (ofGroup g features ignoreDiacritics).target ∧
      (AlignedScore.ofGroup g features ignoreDiacritics).actual =
        (ofGroup g features ignoreDiacritics).actual :=
  ⟨correct_eq_finsum g features ignoreDiacritics,
    fun _ htarget hactual => ofGroup_congr_perm htarget hactual features ignoreDiacritics,
    ofGroup_exchanged g features ignoreDiacritics, le_min (correct_le g features ignoreDiacritics).1
      (correct_le g features ignoreDiacritics).2,
    aligned_correct_le (Corpus.WrittenGroup.comparable h),
    aligned_counts g features ignoreDiacritics⟩

/-- A group in which every phone is said, but only the vowel in its place. -/
def tackWritten : Corpus.WrittenGroup where
  orthography := "tack".toList
  target := "tʰæk".toList
  actual := "kæts".toList
  ordinals := some [(some 0, some 0), (some 1, some 1), (some 2, some 2), (none, some 3)]
  tiers := []

theorem correct_intersection_tack : ∃ g, tackWritten.build .builtin = .ok g ∧
    ofGroup g (.ofList [.consonant, .vowel]) true = ⟨3, 3, 4⟩ ∧
    ∑ᶠ key, min (g.target.scoredCount (.ofList [.consonant, .vowel]) true key)
      (g.actual.scoredCount (.ofList [.consonant, .vowel]) true key) = 3 ∧
    ofGroup { g with target := g.target.reverse } (.ofList [.consonant, .vowel]) true =
      ⟨3, 3, 4⟩ ∧
    ofGroup g.exchanged (.ofList [.consonant, .vowel]) true = ⟨3, 4, 3⟩ ∧
    (AlignedScore.ofGroup g (.ofList [.consonant, .vowel]) true).correct = 1 ∧ 1 ≤ 3 := by
  obtain ⟨g, hbuild, hscore, hcorrect⟩ : ∃ g, tackWritten.build .builtin = .ok g ∧
      ofGroup g (.ofList [.consonant, .vowel]) true = ⟨3, 3, 4⟩ ∧
      (AlignedScore.ofGroup g (.ofList [.consonant, .vowel]) true).correct = 1 :=
    ⟨_, rfl, by decide +kernel, by decide +kernel⟩
  obtain ⟨hsum, hperm, hexchanged, -, haligned, -⟩ :=
    correct_intersection hbuild (.ofList [.consonant, .vowel]) true
  rw [hscore] at hsum hperm hexchanged haligned
  rw [hcorrect] at haligned
  exact ⟨g, hbuild, hscore, hsum.symm, hperm _ ((List.reverse_perm _).filterMap _) (.refl _),
    hexchanged, hcorrect, haligned⟩

end StandardScore

end PhoneticSearch
