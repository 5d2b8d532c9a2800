import Mathlib.Data.List.Lex
import Mathlib.Data.List.Perm.Basic
import Mathlib.Data.Prod.Lex
import PhoneticSearch.Proofs.Result.Attribution

/-!
# The order of collected results

A collection hands out the results of its batches in the order of their records, and results
of one record stay in the order they were added in (`ResultCollection.ofRecord_toList`).  This
says all about the order: lists that are sorted by record and agree on each record are the
same (`eq_of_ofRecord_eq`).  So it does not matter in which order batches are added, as long
as no two of them share a record (`ResultCollection.toList_collect_perm`).  The batches of a
query are those of its records, which therefore may be searched in any order
(`Query.toList_collect_batches`).
-/

namespace PhoneticSearch

/-! ### Lists that are sorted by record -/

namespace QueryResult

/-- What results are sorted by. -/
def rank (r : QueryResult) : Text ×ₗ Nat := toLex r.key

theorem rank_inj {a b : QueryResult} : a.rank = b.rank ↔ a.key = b.key :=
  EmbeddingLike.apply_eq_iff_eq toLex

theorem notAfter_iff {a b : QueryResult} : a.notAfter b = true ↔ a.rank ≤ b.rank := by
  simp only [notAfter, rank, key, Prod.Lex.toLex_le_toLex, Bool.or_eq_true, Bool.and_eq_true,
    decide_eq_true_eq, beq_iff_eq]

theorem notAfter_trans (a b c : QueryResult) (hab : a.notAfter b = true)
    (hbc : b.notAfter c = true) : a.notAfter c = true := by
  rw [notAfter_iff] at hab hbc ⊢
  exact le_trans hab hbc

theorem notAfter_total (a b : QueryResult) : (a.notAfter b || b.notAfter a) = true := by
  rw [Bool.or_eq_true, notAfter_iff, notAfter_iff]
  exact le_total _ _

/-- The results of one record, in the order they are in. -/
def ofRecord (key : Text × Nat) (l : List QueryResult) : List QueryResult :=
  l.filter (·.key = key)

variable {key : Text × Nat} {r s : QueryResult} {l l' : List QueryResult}

theorem mem_ofRecord : r ∈ ofRecord key l ↔ r ∈ l ∧ r.key = key := by
  rw [ofRecord, List.mem_filter, decide_eq_true_eq]

theorem ofRecord_cons_of_eq (h : r.key = key) : ofRecord key (r :: l) = r :: ofRecord key l :=
  List.filter_cons_of_pos (decide_eq_true h)

theorem ofRecord_cons_of_ne (h : r.key ≠ key) : ofRecord key (r :: l) = ofRecord key l :=
  List.filter_cons_of_neg (by simpa using h)

theorem ofRecord_flatten (ls : List (List QueryResult)) :
    ofRecord key ls.flatten = (ls.map (ofRecord key)).flatten :=
  List.filter_flatten

/-- The first of some sorted results is not after any result that is among them. -/
theorem rank_le_of_ofRecord_eq (hl : (r :: l).Pairwise fun a b => a.rank ≤ b.rank)
    (h : ofRecord s.key (r :: l) = ofRecord s.key (s :: l')) : r.rank ≤ s.rank := by
  have hs : s ∈ ofRecord s.key (r :: l) := by
    rw [h]
    exact mem_ofRecord.mpr ⟨List.mem_cons_self, rfl⟩
  rcases List.mem_cons.mp (mem_ofRecord.mp hs).1 with rfl | hmem
  · exact le_refl _
  · exact List.rel_of_pairwise_cons hl hmem

/-- Lists that are sorted by record, and have the same results of each record in the same
order, are the same. -/
theorem eq_of_ofRecord_eq (hl : l.Pairwise fun a b => a.rank ≤ b.rank)
    (hl' : l'.Pairwise fun a b => a.rank ≤ b.rank)
    (h : ∀ key, ofRecord key l = ofRecord key l') : l = l' := by
  induction l generalizing l' with
  | nil =>
    cases l' with
    | nil => rfl
    | cons s l' =>
      have hs := h s.key
      rw [ofRecord_cons_of_eq rfl] at hs
      cases hs
  | cons r l ih =>
    cases l' with
    | nil =>
      have hr := h r.key
      rw [ofRecord_cons_of_eq rfl] at hr
      cases hr
    | cons s l' =>
      have hkey : r.key = s.key := rank_inj.mp <|
        le_antisymm (rank_le_of_ofRecord_eq hl (h s.key))
          (rank_le_of_ofRecord_eq hl' (h r.key).symm)
      have hhead := h r.key
      rw [ofRecord_cons_of_eq rfl, ofRecord_cons_of_eq hkey.symm] at hhead
      obtain ⟨rfl, htail⟩ := List.cons.inj hhead
      refine congrArg (r :: ·) (ih hl.of_cons hl'.of_cons fun key => ?_)
      by_cases hr : r.key = key
      · subst hr
        exact htail
      · have hrest := h key
        rwa [ofRecord_cons_of_ne hr, ofRecord_cons_of_ne hr] at hrest

end QueryResult

namespace ResultCollection

open QueryResult

/-! ### What a collection hands out -/

variable (c : ResultCollection)

theorem toList_perm : c.toList.Perm c.added := List.mergeSort_perm _ _

theorem toList_pairwise : c.toList.Pairwise fun a b => a.rank ≤ b.rank :=
  (List.pairwise_mergeSort notAfter_trans notAfter_total _).imp notAfter_iff.mp

/-- Results of one record stay in the order they were added in. -/
theorem ofRecord_toList (key : Text × Nat) : ofRecord key c.toList = ofRecord key c.added := by
  -- They are in order already, so that sorting leaves them as a part of the list.
  have hsorted : (ofRecord key c.added).Pairwise (notAfter · ·) :=
    List.pairwise_of_forall_mem_list fun a ha b hb =>
      notAfter_iff.mpr (rank_inj.mpr ((mem_ofRecord.mp ha).2.trans (mem_ofRecord.mp hb).2.symm)).le
  have hpart : (ofRecord key c.added).Sublist c.toList :=
    List.sublist_mergeSort notAfter_trans notAfter_total hsorted List.filter_sublist
  have hsame : (ofRecord key c.added).Sublist (ofRecord key c.toList) :=
    List.sublist_filter_iff.mpr ⟨_, hpart, by simp [ofRecord]⟩
  exact (hsame.eq_of_length (c.toList_perm.filter _).length_eq.symm).symm

variable {c} in
/-- Collections to which the results of each record were added in the same order hand out the
same list. -/
theorem toList_congr {c' : ResultCollection}
    (h : ∀ key, ofRecord key c.added = ofRecord key c'.added) : c.toList = c'.toList :=
  eq_of_ofRecord_eq c.toList_pairwise c'.toList_pairwise fun key => by
    rw [ofRecord_toList, ofRecord_toList, h]

/-! ### Batches -/

/-- The collection to which some batches were added one after another. -/
def collect (batches : List (List QueryResult)) : ResultCollection := batches.foldl add empty

theorem added_foldl (batches : List (List QueryResult)) :
    (batches.foldl add c).added = c.added ++ batches.flatten := by
  induction batches generalizing c with
  | nil => rw [List.foldl_nil, List.flatten_nil, List.append_nil]
  | cons batch batches ih =>
    rw [List.foldl_cons, ih, List.flatten_cons, ← List.append_assoc]
    rfl

theorem added_collect (batches : List (List QueryResult)) :
    (collect batches).added = batches.flatten := by
  rw [collect, added_foldl]
  rfl

/-- Whether only batches that are the same have results of the same record. -/
def SeparateRecords (batches : List (List QueryResult)) : Prop :=
  ∀ b ∈ batches, ∀ b' ∈ batches, b ≠ b' → ∀ r ∈ b, ∀ r' ∈ b', r.key ≠ r'.key

instance (batches : List (List QueryResult)) : Decidable (SeparateRecords batches) :=
  inferInstanceAs (Decidable (∀ b ∈ batches, ∀ b' ∈ batches, b ≠ b' → ∀ r ∈ b, ∀ r' ∈ b', _))

variable {batches batches' : List (List QueryResult)}

/-- The results of one record are all from the same batch, which stays where it is when the
batches are put in another order. -/
theorem ofRecord_flatten_perm (h : batches'.Perm batches) (hrecords : SeparateRecords batches)
    (key : Text × Nat) : ofRecord key batches'.flatten = ofRecord key batches.flatten := by
  let parts (bs : List (List QueryResult)) := (bs.map (ofRecord key)).filter (!·.isEmpty)
  have hparts : ∀ bs : List (List QueryResult), ofRecord key bs.flatten = (parts bs).flatten := by
    intro bs
    rw [ofRecord_flatten]
    exact List.flatten_filter_not_isEmpty.symm
  have hsame : ∀ part ∈ parts batches, ∀ part' ∈ parts batches, part = part' := by
    intro part hpart part' hpart'
    obtain ⟨hmem, hne⟩ := List.mem_filter.mp hpart
    obtain ⟨hmem', hne'⟩ := List.mem_filter.mp hpart'
    obtain ⟨b, hb, rfl⟩ := List.mem_map.mp hmem
    obtain ⟨b', hb', rfl⟩ := List.mem_map.mp hmem'
    obtain ⟨r, hr⟩ := List.exists_mem_of_ne_nil _ (by simpa using hne)
    obtain ⟨r', hr'⟩ := List.exists_mem_of_ne_nil _ (by simpa using hne')
    rw [mem_ofRecord] at hr hr'
    by_contra hdiff
    exact hrecords b hb b' hb' (fun heq => hdiff (by rw [heq])) r hr.1 r' hr'.1
      (hr.2.trans hr'.2.symm)
  have hperm : (parts batches').Perm (parts batches) := (h.map _).filter _
  rw [hparts, hparts]
  have htrivial : ∀ ps : List (List QueryResult), ps.Pairwise fun _ _ => True :=
    fun ps => List.pairwise_of_forall fun _ _ => trivial
  refine congrArg List.flatten (List.Perm.eq_of_pairwise ?_ (htrivial _) (htrivial _) hperm)
  exact fun part part' hpart hpart' _ _ => hsame part (hperm.mem_iff.mp hpart) part' hpart'

/-- Batches that do not share records may be added in any order. -/
theorem toList_collect_perm (h : batches'.Perm batches) (hrecords : SeparateRecords batches) :
    (collect batches').toList = (collect batches).toList :=
  toList_congr fun key => by
    rw [added_collect, added_collect, ofRecord_flatten_perm h hrecords]

/-- **Collected results.**  Whatever batches have been added, a collection hands out their
results and no others, sorted by session and record, where the results of one record are in
the order they were added in.  Batches that do not share records, unless they are the same,
may be added in any order. -/
theorem collect_sorts_stably (batches : List (List QueryResult)) :
    let results := (collect batches).toList
    results.Perm batches.flatten ∧
    results.Pairwise (fun a b =>
      a.session < b.session ∨ a.session = b.session ∧ a.recordIndex ≤ b.recordIndex) ∧
    (∀ key, ofRecord key results = ofRecord key batches.flatten) ∧
    ∀ batches' : List (List QueryResult), batches'.Perm batches → SeparateRecords batches →
      (collect batches').toList = results := by
  refine ⟨?_, ?_, fun key => ?_, fun batches' h hrecords => toList_collect_perm h hrecords⟩
  · rw [← added_collect]
    exact toList_perm _
  · refine (toList_pairwise _).imp fun {a b} hab => ?_
    simpa only [rank, key, Prod.Lex.toLex_le_toLex] using hab
  · rw [ofRecord_toList, added_collect]

/-- Three batches of results in two sessions, one of them with two results of one record. -/
def threeBatches : List (List QueryResult) :=
  let result (session : String) (recordIndex : Nat) (data : String) : QueryResult :=
    ⟨session.toList, recordIndex, .linear, [.ofTier .orthography 0 ⟨0, 1⟩ data.toList], []⟩
  [[result "b" 0 "x"], [result "a" 1 "k", result "a" 1 "p"], [result "a" 0 "y"]]

/-- The three batches may be added from the last to the first. -/
theorem collect_sorts_stably_reversed :
    SeparateRecords threeBatches ∧
    (collect threeBatches.reverse).toList = (collect threeBatches).toList := by
  have hrecords : SeparateRecords threeBatches := by decide
  have hsorted := (collect_sorts_stably threeBatches).2.2.2
  exact ⟨hrecords, hsorted _ threeBatches.reverse_perm hrecords⟩

end ResultCollection

/-! ### The batches of a query -/

namespace Query

open ResultCollection

variable (q : Query) {corpus : Corpus}

/-- The results of some records, one batch for each record. -/
def batches (records : List (Session × Nat × Record)) : List (List QueryResult) :=
  records.map fun (session, index, record) => q.results session index record

/-- Where no two sessions have the same name, no two records share results. -/
theorem separateRecords_batches (hnames : (corpus.map (·.name)).Nodup) :
    SeparateRecords (q.batches corpus.records) := by
  intro b hb b' hb' hne r hr r' hr' hkey
  obtain ⟨x, hx, rfl⟩ := List.mem_map.mp hb
  obtain ⟨y, hy, rfl⟩ := List.mem_map.mp hb'
  have hsame : Corpus.recordKey x = Corpus.recordKey y :=
    (q.results_source hr).1.symm.trans (hkey.trans (q.results_source hr').1)
  have hxy : x = y := List.inj_on_of_nodup_map (Corpus.nodup_recordKeys hnames) hx hy hsame
  exact hne (by rw [hxy])

/-- Where no two sessions have the same name, records that are searched in any order give the
results of a run. -/
theorem toList_collect_batches (hnames : (corpus.map (·.name)).Nodup)
    {records : List (Session × Nat × Record)} (h : records.Perm corpus.records) :
    (collect (q.batches records)).toList = (q.run corpus .never).1.toList := by
  have hperm : (q.batches records).Perm (q.batches corpus.records) := h.map _
  rw [toList_collect_perm hperm (q.separateRecords_batches hnames)]
  refine toList_congr fun key => congrArg _ ?_
  rw [added_collect, run_never]
  exact List.flatMap_def.symm

end Query

end PhoneticSearch
