import Mathlib.Algebra.BigOperators.Group.List.Lemmas
import Mathlib.Algebra.GroupWithZero.Nat
import Mathlib.Algebra.Order.BigOperators.Group.List
import Mathlib.Algebra.Order.Group.Nat
import Mathlib.Data.Char
import Mathlib.Data.List.Lex
import Mathlib.Data.Prod.Lex
import PhoneticSearch.Proofs.Phonex.Ends
import PhoneticSearch.Result.Aggregate

/-!
# Tallies

A tally has each value of a list once, with the number of its occurrences, so that its numbers add
up to the length of the list (`sum_tally`).  In which order the list is does not matter for the
tally of names, which is sorted (`nameTally_congr`), and for other tallies only as far as their own
order goes (`tally_perm`).  The numbers of results of records are sorted by a linear order as well
(`RecordCount.notAfter_iff`).
-/

namespace PhoneticSearch

/-! ### Distinct values -/

section Distinct

variable {α : Type} [instα : BEq α] [LawfulBEq α] {l l' : List α}

/-- The distinct values of a list are any values without repetition that it has. -/
theorem eraseDups_perm {distinct : List α} (hdistinct : distinct.Nodup)
    (hmem : ∀ x, x ∈ l ↔ x ∈ distinct) : l.eraseDups.Perm distinct :=
  (List.perm_ext_iff_of_nodup (Phonex.nodup_eraseDups l) hdistinct).mpr fun x => by
    rw [List.mem_eraseDups, hmem]

theorem eraseDups_congr (h : l.Perm l') : l.eraseDups.Perm l'.eraseDups :=
  eraseDups_perm (Phonex.nodup_eraseDups l') fun x => by rw [List.mem_eraseDups, h.mem_iff]

/-- The numbers of occurrences of all values add up to the length of a list. -/
theorem sum_count (l : List α) {distinct : List α} (h : distinct.Perm l.eraseDups) :
    (distinct.map l.count).sum = l.length := by
  classical
  have hdedup : distinct.Perm l.dedup :=
    h.trans (eraseDups_perm l.nodup_dedup fun x => List.mem_dedup.symm)
  rw [(hdedup.map l.count).sum_eq, lawful_beq_subsingleton instα instBEqOfDecidableEq]
  exact List.sum_map_count_dedup_eq_length l

theorem length_eraseDups_le (l : List α) : l.eraseDups.length ≤ l.length := by
  classical
  rw [(eraseDups_perm l.nodup_dedup fun x => List.mem_dedup.symm).length_eq]
  exact l.dedup_sublist.length_le

theorem sum_tally (l : List α) : ((tally l).map Prod.snd).sum = l.length := by
  rw [tally, List.map_map]
  exact sum_count l (List.Perm.refl _)

theorem tally_perm (h : l.Perm l') : (tally l).Perm (tally l') := by
  have hcount : (fun x => (x, l.count x)) = fun x => (x, l'.count x) :=
    funext fun x => by rw [h.count_eq]
  rw [tally, tally, hcount]
  exact (eraseDups_congr h).map _

theorem mem_tally {entry : α × Nat} :
    entry ∈ tally l ↔ entry.1 ∈ l ∧ entry.2 = l.count entry.1 := by
  obtain ⟨x, n⟩ := entry
  simp only [tally, List.mem_map, List.mem_eraseDups, Prod.mk.injEq]
  constructor
  · rintro ⟨y, hy, rfl, rfl⟩
    exact ⟨hy, rfl⟩
  · rintro ⟨hx, rfl⟩
    exact ⟨x, hx, rfl, rfl⟩

end Distinct

/-! ### Sorted lists -/

/-- A list that is sorted by a linear order does not depend on the order it was in. -/
theorem mergeSort_congr {α : Type} {le : α → α → Bool}
    (htrans : ∀ a b c, le a b = true → le b c = true → le a c = true)
    (htotal : ∀ a b, (le a b || le b a) = true)
    (hantisymm : ∀ a b, le a b = true → le b a = true → a = b) {l l' : List α} (h : l.Perm l') :
    l.mergeSort le = l'.mergeSort le :=
  List.Perm.eq_of_pairwise (fun a b _ _ => hantisymm a b)
    (List.pairwise_mergeSort htrans htotal l) (List.pairwise_mergeSort htrans htotal l')
    (((List.mergeSort_perm l le).trans h).trans (List.mergeSort_perm l' le).symm)

/-! ### Tallies of names -/

section Names

variable {names names' : List Text}

/-- The number of times that a name occurs is looked up under the name. -/
theorem lookup_nameTally (names : List Text) (name : Text) :
    (nameTally names).lookup name =
      if names.count name = 0 then none else some (names.count name) := by
  unfold nameTally
  split
  · rename_i hcount
    refine List.lookup_eq_none_iff.mpr fun entry hentry => ?_
    obtain ⟨other, hother, rfl⟩ := List.mem_map.mp hentry
    have hne : other ≠ name := fun h => List.count_eq_zero.mp hcount
      (h ▸ List.mem_eraseDups.mp (List.mem_mergeSort.mp hother))
    simpa using hne.symm
  · rename_i hcount
    have hmem : name ∈ names.eraseDups :=
      List.mem_eraseDups.mpr (List.count_pos_iff.mp (Nat.pos_of_ne_zero hcount))
    exact List.lookup_graph _ (List.mem_mergeSort.mpr hmem)

theorem sum_nameTally (names : List Text) :
    ((nameTally names).map Prod.snd).sum = names.length := by
  rw [nameTally, List.map_map]
  exact sum_count names (List.mergeSort_perm _ _)

/-- The tally of names does not depend on the order they are in. -/
theorem nameTally_congr (h : names.Perm names') : nameTally names = nameTally names' := by
  have hcount : (fun name => (name, names.count name)) = fun name => (name, names'.count name) :=
    funext fun name => by rw [h.count_eq]
  rw [nameTally, nameTally, hcount]
  refine congrArg _ (mergeSort_congr ?_ ?_ ?_ (eraseDups_congr h))
  · intro a b c hab hbc
    simp only [Bool.not_eq_true', decide_eq_false_iff_not, not_lt] at hab hbc ⊢
    exact le_trans hab hbc
  · intro a b
    simpa only [Bool.or_eq_true, Bool.not_eq_true', decide_eq_false_iff_not, not_lt] using
      le_total a b
  · intro a b hab hba
    simp only [Bool.not_eq_true', decide_eq_false_iff_not, not_lt] at hab hba
    exact le_antisymm hab hba

end Names

/-! ### The order of records -/

namespace RecordCount

/-- The session and the number of a record. -/
def key (c : RecordCount) : Text × Nat := (c.session, c.recordIndex)

/-- What records are sorted by. -/
def rank (c : RecordCount) : Natᵒᵈ ×ₗ Text ×ₗ Nat :=
  toLex (OrderDual.toDual c.count, toLex (c.session, c.recordIndex))

theorem rank_injective : Function.Injective rank := by
  rintro ⟨_, _, _⟩ ⟨_, _, _⟩ h
  simp only [rank, EmbeddingLike.apply_eq_iff_eq, Prod.mk.injEq] at h
  obtain ⟨rfl, rfl, rfl⟩ := h
  rfl

theorem notAfter_iff {a b : RecordCount} : a.notAfter b = true ↔ a.rank ≤ b.rank := by
  simp only [notAfter, rank, Prod.Lex.toLex_le_toLex, OrderDual.toDual_lt_toDual, Bool.or_eq_true,
    Bool.and_eq_true, decide_eq_true_eq, beq_iff_eq, EmbeddingLike.apply_eq_iff_eq]

theorem notAfter_trans (a b c : RecordCount) (hab : a.notAfter b = true)
    (hbc : b.notAfter c = true) : a.notAfter c = true := by
  rw [notAfter_iff] at hab hbc ⊢
  exact le_trans hab hbc

theorem notAfter_total (a b : RecordCount) : (a.notAfter b || b.notAfter a) = true := by
  rw [Bool.or_eq_true, notAfter_iff, notAfter_iff]
  exact le_total _ _

theorem notAfter_antisymm (a b : RecordCount) (hab : a.notAfter b = true)
    (hba : b.notAfter a = true) : a = b := by
  rw [notAfter_iff] at hab hba
  exact rank_injective (le_antisymm hab hba)

end RecordCount

namespace Aggregates

/-! ### Counted records -/

/-- The number of results of each record, before they are sorted. -/
def countedRecords (results : List QueryResult) : List RecordCount :=
  (tally (results.map QueryResult.key)).map fun ((session, i), count) => ⟨session, i, count⟩

theorem recordCounts_eq (results : List QueryResult) :
    recordCounts results = (countedRecords results).mergeSort RecordCount.notAfter := rfl

theorem recordCounts_perm (results : List QueryResult) :
    (recordCounts results).Perm (countedRecords results) := List.mergeSort_perm _ _

theorem map_key_countedRecords (results : List QueryResult) :
    (countedRecords results).map RecordCount.key = (results.map QueryResult.key).eraseDups := by
  simp only [countedRecords, tally, List.map_map]
  exact List.map_id _

theorem sum_recordCounts (results : List QueryResult) :
    ((recordCounts results).map (·.count)).sum = results.length := by
  rw [((recordCounts_perm results).map _).sum_eq, countedRecords, List.map_map]
  exact (sum_tally _).trans (List.length_map _)

/-! ### Counters -/

/-- All the numbers that results are counted by. -/
def counters (a : Aggregates) : List Nat :=
  [a.results, a.recordsWithResults, a.sessionsWithResults, a.groupsWithResults] ++
    a.byTier.map Prod.snd ++ a.bySpeaker.map Prod.snd ++ a.densest.map (·.count)

/-- Nothing is counted more often than there are results. -/
theorem counters_le (results : List QueryResult) (corpus : Corpus) (options : ScoreOptions) :
    ∀ n ∈ (ofResults results corpus options).counters, n ≤ results.length := by
  have hdistinct : ∀ {α : Type} [BEq α] [LawfulBEq α] (f : QueryResult → Option α),
      (results.filterMap f).eraseDups.length ≤ results.length := fun f =>
    (length_eraseDups_le _).trans (List.length_filterMap_le f results)
  have htally : ∀ {names : List Text}, names.length ≤ results.length →
      ∀ n ∈ (nameTally names).map Prod.snd, n ≤ results.length := fun hnames n hn =>
    (List.le_sum_of_mem hn).trans ((sum_nameTally _).trans_le hnames)
  intro n hn
  simp only [counters, List.mem_append, List.mem_cons, List.not_mem_nil, or_false] at hn
  rcases hn with (((rfl | rfl | rfl | rfl) | hn) | hn) | hn
  · exact Nat.le_refl _
  · exact (length_eraseDups_le _).trans (List.length_map _).le
  · exact (length_eraseDups_le _).trans (List.length_map _).le
  · exact hdistinct _
  · exact htally (List.length_filterMap_le _ _) n hn
  · exact htally (List.length_map _).le n hn
  · have hsum := sum_recordCounts results
    obtain ⟨c, hc, rfl⟩ := List.mem_map.mp hn
    exact (List.le_sum_of_mem (List.mem_map_of_mem (List.mem_of_mem_take hc))).trans hsum.le

end Aggregates

end PhoneticSearch
