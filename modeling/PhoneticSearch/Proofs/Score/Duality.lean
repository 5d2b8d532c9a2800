import Mathlib.Data.List.Perm.Subperm
import PhoneticSearch.Proofs.Corpus.Exchange
import PhoneticSearch.Proofs.Corpus.Group
import PhoneticSearch.Proofs.Score.Sum
import PhoneticSearch.Proofs.Transcription.ReadBack

/-!
# Scores by the alignment

A group that was read matches phones with phones, and one table gave the phones of both
sides their features (`Group.Comparable`).  Equal texts then mean equal features
(`features_eq_of_key_eq`), so that a target phone counts as correct exactly when its
partner does from the other side: the score of a group whose sides are exchanged is the
exchanged score (`AlignedScore.ofGroup_exchanged`).

A deleted phone is not correct, and by the exchange an epenthesized one is not either;
that is where the bounds of a score come from (`AlignedScore.Bounded`), and they hold of
sums of scores that fit into words as well (`scores_balanced`).
-/

namespace PhoneticSearch

/-! ### Groups that can be compared -/

/-- Whether the alignment of a group matches phones with phones, and a table gave all of
them their features. -/
structure Group.Comparable (table : FeatureTable) (g : Group) : Prop where
  matched : g.alignment.Matches g.transcription
  spelled : ∀ side i p, (g.transcription side).phoneAt? i = some p →
    (p.withConstituent .unknown).Spelled table

theorem Group.Comparable.exchanged {table : FeatureTable} {g : Group} (h : g.Comparable table) :
    g.exchanged.Comparable table where
  matched := by
    rw [Group.transcription_exchanged]
    exact h.matched.exchanged
  spelled side := by
    rw [Group.transcription_exchanged]
    exact h.spelled side.other

/-- A group that was read can be compared. -/
theorem Corpus.WrittenGroup.comparable {table : FeatureTable} {w : WrittenGroup} {g : Group}
    (h : w.build table = .ok g) : g.Comparable table where
  matched := matches_of_build h
  spelled side i p hp := by
    obtain ⟨target, actual, a, htarget, hactual, -, rfl⟩ := build_eq_ok.mp h
    cases side with
    | target => exact Transcription.spelled_of_read htarget hp
    | actual => exact Transcription.spelled_of_read hactual hp

/-- Phones that a table gave their features have the same ones when they are written
alike, be it with or without diacritics. -/
theorem features_eq_of_key_eq {table : FeatureTable} {p q : Phone} {ignoreDiacritics : Bool}
    (hp : (p.withConstituent .unknown).Spelled table)
    (hq : (q.withConstituent .unknown).Spelled table)
    (h : p.key ignoreDiacritics = q.key ignoreDiacritics) : p.features = q.features := by
  cases ignoreDiacritics with
  | false =>
    have heq : p.withConstituent .unknown = q.withConstituent .unknown :=
      Transcription.eq_of_text_eq hp hq h
    have hfeatures := congrArg Phone.features heq
    exact hfeatures
  | true =>
    have heq : (p.withConstituent .unknown).bare = (q.withConstituent .unknown).bare :=
      Transcription.eq_of_text_eq hp.bare hq.bare h
    have hfeatures := congrArg Phone.features heq
    exact hfeatures

/-! ### The phones that are scored -/

namespace Transcription

variable {t : Transcription} {features : FeatureSet}

theorem mem_scored {i : Nat} {p : Phone} :
    (i, p) ∈ t.scored features ↔ t.phoneAt? i = some p ∧ p.features.intersects features = true := by
  simp only [scored, List.mem_filterMap, Option.bind_eq_some_iff, Option.ite_none_right_eq_some,
    Option.some.injEq, Prod.mk.injEq]
  constructor
  · rintro ⟨i', -, p', hp', hfeatures, rfl, rfl⟩
    exact ⟨hp', hfeatures⟩
  · rintro ⟨hp, hfeatures⟩
    exact ⟨i, mem_phonePositions.mpr ⟨p, hp⟩, p, hp, hfeatures, rfl, rfl⟩

theorem scored_nodup (t : Transcription) (features : FeatureSet) :
    ((t.scored features).map (·.1)).Nodup := by
  rw [scored, List.map_filterMap]
  refine t.phonePositions_nodup.filterMap fun i i' j hi hi' => ?_
  -- The number of a phone that is scored is its position.
  have hposition : ∀ k, j ∈ ((t.phoneAt? k).bind fun p =>
      if p.features.intersects features then some (k, p) else none).map (·.1) → j = k := by
    intro k hk
    obtain ⟨⟨k', p⟩, hp, rfl⟩ := Option.map_eq_some_iff.mp hk
    obtain ⟨p', -, hp⟩ := Option.bind_eq_some_iff.mp hp
    split at hp
    · cases hp
      rfl
    · cases hp
  rw [← hposition i hi, ← hposition i' hi']

end Transcription

/-! ### Scores from both sides -/

namespace AlignedScore

variable {table : FeatureTable} {g : Group} {features : FeatureSet} {ignoreDiacritics : Bool}

/-- A score with its sides exchanged. -/
def exchanged (s : AlignedScore) : AlignedScore :=
  ⟨s.correct, s.actual, s.epenthesized, s.target, s.deleted⟩

/-- The positions of the target phones that are aligned with an equal phone. -/
def correctPositions (g : Group) (features : FeatureSet) (ignoreDiacritics : Bool) : List Nat :=
  ((g.target.scored features).filter fun (i, p) => (counterpart? g i).any fun a =>
    p.key ignoreDiacritics == a.key ignoreDiacritics).map (·.1)

theorem length_correctPositions : (correctPositions g features ignoreDiacritics).length =
    (ofGroup g features ignoreDiacritics).correct := by
  rw [correctPositions, List.length_map, ← List.countP_eq_length_filter]
  rfl

theorem mem_correctPositions {i : Nat} : i ∈ correctPositions g features ignoreDiacritics ↔
    ∃ p j q, g.target.phoneAt? i = some p ∧ p.features.intersects features = true ∧
      g.alignment.partner? .target i = some j ∧ g.actual.phoneAt? j = some q ∧
      p.key ignoreDiacritics = q.key ignoreDiacritics := by
  simp only [correctPositions, List.mem_map, List.mem_filter, Prod.exists, exists_and_right,
    exists_eq_right, Transcription.mem_scored, Option.any_eq_true, beq_iff_eq, counterpart?,
    Option.bind_eq_some_iff]
  constructor
  · rintro ⟨p, ⟨hp, hfeatures⟩, q, ⟨j, hj, hq⟩, hkey⟩
    exact ⟨p, j, q, hp, hfeatures, hj, hq, hkey⟩
  · rintro ⟨p, j, q, hp, hfeatures, hj, hq, hkey⟩
    exact ⟨p, ⟨hp, hfeatures⟩, q, ⟨j, hj, hq⟩, hkey⟩

theorem correctPositions_nodup : (correctPositions g features ignoreDiacritics).Nodup :=
  (g.target.scored_nodup features).sublist (List.filter_sublist.map _)

/-- The partners of correct phones are correct from the other side. -/
theorem partner_correct (h : g.Comparable table) {i j : Nat}
    (hi : i ∈ correctPositions g features ignoreDiacritics)
    (hj : g.alignment.partner? .target i = some j) :
    j ∈ correctPositions g.exchanged features ignoreDiacritics := by
  obtain ⟨p, j', q, hp, hfeatures, hj', hq, hkey⟩ := mem_correctPositions.mp hi
  obtain rfl : j' = j := Option.some.inj (hj'.symm.trans hj)
  have hsame : p.features = q.features :=
    features_eq_of_key_eq (h.spelled .target i p hp) (h.spelled .actual j' q hq) hkey
  have hback : g.exchanged.alignment.partner? .target j' = some i := by
    rw [Group.exchanged, Alignment.partner?_exchanged]
    exact h.matched.partner?_comm.mp hj
  exact mem_correctPositions.mpr ⟨q, i, p, hq, hsame ▸ hfeatures, hback, hp, hkey.symm⟩

/-- The partners of the correct positions are correct from the other side, each of another
phone. -/
theorem exists_partners (h : g.Comparable table) (features : FeatureSet)
    (ignoreDiacritics : Bool) : ∃ partner : Nat → Nat,
      (∀ i ∈ correctPositions g features ignoreDiacritics,
        g.alignment.partner? .target i = some (partner i)) ∧
      ((correctPositions g features ignoreDiacritics).map partner).Subperm
        (correctPositions g.exchanged features ignoreDiacritics) := by
  let partner (i : Nat) : Nat := (g.alignment.partner? .target i).getD 0
  have hpartner : ∀ i ∈ correctPositions g features ignoreDiacritics,
      g.alignment.partner? .target i = some (partner i) := by
    intro i hi
    obtain ⟨_, j, _, -, -, hj, -, -⟩ := mem_correctPositions.mp hi
    simp [partner, hj]
  have hnodup : ((correctPositions g features ignoreDiacritics).map partner).Nodup := by
    refine List.Nodup.map_on (fun i hi i' hi' heq => ?_) correctPositions_nodup
    have hback := h.matched.partner?_comm.mp (hpartner i hi)
    rw [heq, h.matched.partner?_comm.mp (hpartner i' hi')] at hback
    exact (Option.some.inj hback).symm
  have hsubset : (correctPositions g features ignoreDiacritics).map partner ⊆
      correctPositions g.exchanged features ignoreDiacritics := by
    intro j hj
    obtain ⟨i, hi, rfl⟩ := List.mem_map.mp hj
    exact partner_correct h hi (hpartner i hi)
  exact ⟨partner, hpartner, hnodup.subperm hsubset⟩

theorem correct_le_exchanged (h : g.Comparable table) :
    (ofGroup g features ignoreDiacritics).correct ≤
      (ofGroup g.exchanged features ignoreDiacritics).correct := by
  obtain ⟨partner, -, hpartners⟩ := exists_partners h features ignoreDiacritics
  have hlength := hpartners.length_le
  rwa [List.length_map, length_correctPositions, length_correctPositions] at hlength

theorem correct_exchanged (h : g.Comparable table) :
    (ofGroup g.exchanged features ignoreDiacritics).correct =
      (ofGroup g features ignoreDiacritics).correct := by
  have hback : (ofGroup g.exchanged features ignoreDiacritics).correct ≤
      (ofGroup g.exchanged.exchanged features ignoreDiacritics).correct :=
    correct_le_exchanged h.exchanged
  rw [Group.exchanged_exchanged] at hback
  exact Nat.le_antisymm hback (correct_le_exchanged h)

/-- The epenthesized phones are those that are deleted from the other side. -/
theorem deleted_exchanged (h : g.Comparable table) :
    (ofGroup g.exchanged features ignoreDiacritics).deleted =
      (ofGroup g features ignoreDiacritics).epenthesized := by
  refine List.countP_congr fun ⟨i, p⟩ _ => ?_
  have hcounterpart : counterpart? g.exchanged i =
      (g.alignment.partner? .actual i).bind g.target.phoneAt? := by
    rw [counterpart?, Group.exchanged, Alignment.partner?_exchanged]
    rfl
  simp only [hcounterpart]
  cases hpartner : g.alignment.partner? .actual i with
  | none => rfl
  | some j =>
    obtain ⟨q, hq⟩ := h.matched.partner?_phone hpartner
    have hphone : g.target.phoneAt? j = some q := hq
    rw [Option.bind_some, hphone]
    rfl

/-- The score of a group with its sides exchanged is the exchanged score. -/
theorem ofGroup_exchanged (h : g.Comparable table) :
    ofGroup g.exchanged features ignoreDiacritics =
      (ofGroup g features ignoreDiacritics).exchanged := by
  have hdeleted : (ofGroup g.exchanged.exchanged features ignoreDiacritics).deleted =
      (ofGroup g.exchanged features ignoreDiacritics).epenthesized :=
    deleted_exchanged h.exchanged
  rw [Group.exchanged_exchanged] at hdeleted
  rw [exchanged, hdeleted, ← correct_exchanged h, ← deleted_exchanged h]
  rfl

/-! ### Bounds -/

/-- Whether the numbers of a score fit together. -/
structure Bounded (s : AlignedScore) : Prop where
  correct_add_deleted : s.correct + s.deleted ≤ s.target
  epenthesized_le : s.epenthesized ≤ s.actual
  correct_le : s.correct ≤ s.actual - s.epenthesized

/-- A correct phone is not deleted. -/
theorem correct_add_deleted (g : Group) (features : FeatureSet) (ignoreDiacritics : Bool) :
    (ofGroup g features ignoreDiacritics).correct + (ofGroup g features ignoreDiacritics).deleted ≤
      (ofGroup g features ignoreDiacritics).target := by
  let correct : Nat × Phone → Bool := fun (i, p) =>
    (counterpart? g i).any fun a => p.key ignoreDiacritics == a.key ignoreDiacritics
  have hdeleted : (g.target.scored features).countP (fun (i, _) => (counterpart? g i).isNone) ≤
      (g.target.scored features).countP fun x => !correct x := by
    refine List.countP_mono_left fun ⟨i, p⟩ _ h => ?_
    have hnone : counterpart? g i = none := Option.isNone_iff_eq_none.mp h
    simp [correct, hnone]
  calc (ofGroup g features ignoreDiacritics).correct + (ofGroup g features ignoreDiacritics).deleted
      ≤ (g.target.scored features).countP correct +
          (g.target.scored features).countP (fun x => !correct x) :=
        Nat.add_le_add_left hdeleted _
    _ = (g.target.scored features).length := by
        rw [List.length_eq_countP_add_countP correct]
        simp

theorem bounded_of_comparable (h : g.Comparable table) :
    (ofGroup g features ignoreDiacritics).Bounded where
  correct_add_deleted := correct_add_deleted g features ignoreDiacritics
  epenthesized_le := List.countP_le_length
  correct_le := by
    have hexchanged := correct_add_deleted g.exchanged features ignoreDiacritics
    rw [correct_exchanged h, deleted_exchanged h] at hexchanged
    exact Nat.le_sub_of_add_le hexchanged

/-! ### Bounds of sums -/

variable {s : AlignedScore} {scores : List AlignedScore}

theorem bounded_total (h : ∀ s ∈ scores, s.Bounded) : (total scores).Bounded := by
  induction scores with
  | nil => exact ⟨Nat.le_refl _, Nat.le_refl _, Nat.le_refl _⟩
  | cons s scores ih =>
    obtain ⟨⟨hdeleted, hepenthesized, hcorrect⟩, hscores⟩ := List.forall_mem_cons.mp h
    obtain ⟨hdeleted', hepenthesized', hcorrect'⟩ := ih hscores
    rw [← List.singleton_append, total_append, total_singleton]
    constructor <;> dsimp only <;> omega

/-- If all phones can be counted by words, the numbers of a score fit into words. -/
theorem Bounded.fits (h : s.Bounded) (htarget : s.target < Span.wordCount)
    (hactual : s.actual < Span.wordCount) : s.Fits := by
  obtain ⟨hdeleted, hepenthesized, -⟩ := h
  unfold Fits
  omega

/-- The scores of groups that were read, and what they are taken together to, in any order and
however often. -/
inductive Summed : List AlignedScore → AlignedScore → Prop where
  | zero : Summed [] {}
  | group {table : FeatureTable} {w : Corpus.WrittenGroup} {g : Group}
    (h : w.build table = .ok g) (features : FeatureSet) (ignoreDiacritics : Bool) :
    Summed [ofGroup g features ignoreDiacritics] (ofGroup g features ignoreDiacritics)
  | add {scores scores' : List AlignedScore} {s s' : AlignedScore} (h : Summed scores s)
    (h' : Summed scores' s') : Summed (scores ++ scores') (s.add s')

theorem Summed.bounded (h : Summed scores s) : ∀ s ∈ scores, s.Bounded := by
  induction h with
  | zero => exact fun _ hs => by cases hs
  | group h features ignoreDiacritics =>
    exact List.forall_mem_singleton.mpr (bounded_of_comparable (Corpus.WrittenGroup.comparable h))
  | add _ _ ih ih' => exact List.forall_mem_append.mpr ⟨ih, ih'⟩

/-- A sum is what its scores add up to, if it fits into words. -/
theorem Summed.eq_total (h : Summed scores s) (hfits : (total scores).Fits) :
    s = total scores := by
  induction h with
  | zero => rfl
  | group h features ignoreDiacritics => exact (total_singleton _).symm
  | add _ _ ih ih' => rw [ih hfits.of_append.1, ih' hfits.of_append.2, add_total hfits]

/-- The numbers of the score of a group that was read fit together, and exchanging the
sides of the group exchanges those of the score.  As long as the phones on either side can be
counted by words, sums of such scores are what the scores add up to, and their numbers still fit
together, so that no more target phones are deleted than there are. -/
theorem scores_balanced {w : Corpus.WrittenGroup} (h : w.build table = .ok g)
    (features : FeatureSet) (ignoreDiacritics : Bool) :
    (ofGroup g features ignoreDiacritics).Bounded ∧
      ofGroup g.exchanged features ignoreDiacritics =
        (ofGroup g features ignoreDiacritics).exchanged ∧
      ∀ scores s, Summed scores s →
        (total scores).target < Span.wordCount → (total scores).actual < Span.wordCount →
          s = total scores ∧ s.Bounded ∧ s.attempted + s.deleted = s.target := by
  have hcomparable := Corpus.WrittenGroup.comparable h
  refine ⟨bounded_of_comparable hcomparable, ofGroup_exchanged hcomparable,
    fun scores s hs htarget hactual => ?_⟩
  have hbounded := bounded_total hs.bounded
  obtain rfl := hs.eq_total (hbounded.fits htarget hactual)
  have hdeleted : (total scores).deleted ≤ (total scores).target :=
    Nat.le_trans (Nat.le_add_left _ _) hbounded.correct_add_deleted
  refine ⟨rfl, hbounded, ?_⟩
  rw [attempted_eq hdeleted htarget, Nat.sub_add_cancel hdeleted]

/-- A group in which one consonant is correct, one deleted and two epenthesized. -/
def catsWritten : Corpus.WrittenGroup where
  orthography := "cats".toList
  target := "kʰæts".toList
  actual := "kætʃəs".toList
  ordinals := some [(some 0, some 0), (some 1, some 1), (some 2, none), (some 3, some 2),
    (none, some 3), (none, some 4), (none, some 5)]
  tiers := []

theorem scores_balanced_cats : ∃ g, catsWritten.build .builtin = .ok g ∧
    ofGroup g (.ofList [.consonant]) true = ⟨1, 3, 1, 4, 2⟩ ∧
    ofGroup g.exchanged (.ofList [.consonant]) true = ⟨1, 4, 2, 3, 1⟩ ∧
    let scores := [ofGroup g (.ofList [.consonant]) true, ofGroup g (.ofList [.vowel]) false]
    let s := (ofGroup g (.ofList [.consonant]) true).add (ofGroup g (.ofList [.vowel]) false)
    (total scores).target < Span.wordCount ∧ (total scores).actual < Span.wordCount ∧
      s = ⟨2, 4, 1, 6, 3⟩ ∧ s.Bounded ∧ s.attempted + s.deleted = s.target := by
  obtain ⟨g, hbuild, hconsonants, hvowels⟩ : ∃ g, catsWritten.build .builtin = .ok g ∧
      ofGroup g (.ofList [.consonant]) true = ⟨1, 3, 1, 4, 2⟩ ∧
      ofGroup g (.ofList [.vowel]) false = ⟨1, 1, 0, 2, 1⟩ :=
    ⟨_, rfl, by decide +kernel, by decide +kernel⟩
  obtain ⟨-, hexchanged, hsums⟩ := scores_balanced hbuild (.ofList [.consonant]) true
  have htotal : total [ofGroup g (.ofList [.consonant]) true,
      ofGroup g (.ofList [.vowel]) false] = ⟨2, 4, 1, 6, 3⟩ := by
    rw [hconsonants, hvowels]
    rfl
  have htarget : (⟨2, 4, 1, 6, 3⟩ : AlignedScore).target < Span.wordCount := by decide
  have hactual : (⟨2, 4, 1, 6, 3⟩ : AlignedScore).actual < Span.wordCount := by decide
  rw [← htotal] at htarget hactual
  obtain ⟨hsum, hbounded, hattempted⟩ :=
    hsums _ _ (.add (.group hbuild _ _) (.group hbuild _ _)) htarget hactual
  refine ⟨g, hbuild, hconsonants, ?_, htarget, hactual, hsum.trans htotal, hbounded, hattempted⟩
  rw [hexchanged, hconsonants]
  rfl

end AlignedScore

end PhoneticSearch
