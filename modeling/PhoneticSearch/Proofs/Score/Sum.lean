import Mathlib.Algebra.Ring.Nat
import Mathlib.Data.List.Basic
import Mathlib.Data.List.Induction
import PhoneticSearch.Score

/-!
# Sums of scores

Scores are added in words of 64 bits.  A sum is what the numbers of the scores add up to
(`AlignedScore.total`) as long as this fits into words (`AlignedScore.Fits`): the parts of a sum
then fit as well, in whatever order it is taken (`add_total`).  So it is with the scores of some
groups taken together (`sum_eq_total`), for which the order of the groups never matters
(`sum_perm`).
-/

namespace PhoneticSearch.AlignedScore

/-- What the numbers of some scores add up to, however great it is. -/
def total (scores : List AlignedScore) : AlignedScore :=
  ⟨(scores.map (·.correct)).sum, (scores.map (·.target)).sum, (scores.map (·.deleted)).sum,
    (scores.map (·.actual)).sum, (scores.map (·.epenthesized)).sum⟩

/-- Whether the numbers of a score fit into words of 64 bits. -/
def Fits (s : AlignedScore) : Prop :=
  s.correct < Span.wordCount ∧ s.target < Span.wordCount ∧ s.deleted < Span.wordCount ∧
    s.actual < Span.wordCount ∧ s.epenthesized < Span.wordCount

variable {scores scores' : List AlignedScore}

theorem total_singleton (s : AlignedScore) : total [s] = s := by
  simp only [total, List.map_cons, List.map_nil, List.sum_singleton]

theorem total_append (scores scores' : List AlignedScore) : total (scores ++ scores') =
    ⟨(total scores).correct + (total scores').correct,
      (total scores).target + (total scores').target,
      (total scores).deleted + (total scores').deleted,
      (total scores).actual + (total scores').actual,
      (total scores).epenthesized + (total scores').epenthesized⟩ := by
  simp only [total, List.map_append, List.sum_append]

/-- The parts of what fits into words fit as well. -/
theorem Fits.of_append (h : (total (scores ++ scores')).Fits) :
    (total scores).Fits ∧ (total scores').Fits := by
  rw [total_append] at h
  unfold Fits at h ⊢
  dsimp only at h
  omega

/-- Two totals taken together are the total, if it fits into words. -/
theorem add_total (h : (total (scores ++ scores')).Fits) :
    (total scores).add (total scores') = total (scores ++ scores') := by
  rw [total_append] at h ⊢
  obtain ⟨hcorrect, htarget, hdeleted, hactual, hepenthesized⟩ := h
  simp only [add, Nat.mod_eq_of_lt hcorrect, Nat.mod_eq_of_lt htarget, Nat.mod_eq_of_lt hdeleted,
    Nat.mod_eq_of_lt hactual, Nat.mod_eq_of_lt hepenthesized]

/-! ### The scores of groups -/

/-- The scores of some groups taken together. -/
def sum (groups : List Group) (features : FeatureSet) (ignoreDiacritics : Bool) : AlignedScore :=
  groups.foldl (fun score g => score.add (.ofGroup g features ignoreDiacritics)) {}

/-- It does not matter in which order groups are taken together. -/
theorem sum_perm {groups groups' : List Group} (h : groups.Perm groups') (features : FeatureSet)
    (ignoreDiacritics : Bool) :
    sum groups features ignoreDiacritics = sum groups' features ignoreDiacritics :=
  List.Perm.foldl_eq' h (fun _ _ _ _ score => add_right_comm score _ _) _

/-- The scores of groups taken together are what they add up to, if it fits into words. -/
theorem sum_eq_total {groups : List Group} {features : FeatureSet} {ignoreDiacritics : Bool}
    (h : (total (groups.map (ofGroup · features ignoreDiacritics))).Fits) :
    sum groups features ignoreDiacritics =
      total (groups.map (ofGroup · features ignoreDiacritics)) := by
  induction groups using List.reverseRecOn with
  | nil => rfl
  | append_singleton groups g ih =>
    rw [List.map_append] at h ⊢
    rw [← add_total h, ← ih h.of_append.1, List.map_singleton, total_singleton, sum,
      List.foldl_append]
    rfl

end PhoneticSearch.AlignedScore
