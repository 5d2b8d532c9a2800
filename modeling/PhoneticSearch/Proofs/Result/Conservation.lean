import PhoneticSearch.Proofs.Result.Attribution

/-!
# What aggregates keep

Aggregates count every result once: for a speaker, for a tier if it has a value, and for its record.
None of the numbers depends on the order that the results are in, nor on the order in which the
groups and the records are gone through, since scores add up in any order (`totalScore_congr`) and
records are sorted by a linear order (`recordCounts_congr`).  The records that are listed are the
first ones of all (`ofResults_conserves`).
-/

namespace PhoneticSearch

namespace RecordCount

/-- Whether a record is listed before another: it has more results, or as many and it is of a
session with an earlier name, or of the same session and has a smaller number. -/
def Precedes (a b : RecordCount) : Prop :=
  b.count < a.count ∨ (a.count = b.count ∧
    (a.session < b.session ∨ (a.session = b.session ∧ a.recordIndex < b.recordIndex)))

theorem precedes_of_notAfter {a b : RecordCount} (h : a.notAfter b = true) (hne : a.key ≠ b.key) :
    a.Precedes b := by
  simp only [notAfter, Bool.or_eq_true, Bool.and_eq_true, decide_eq_true_eq, beq_iff_eq] at h
  rcases h with hmore | ⟨hequal, hsession | ⟨hsession, hindex⟩⟩
  · exact .inl hmore
  · exact .inr ⟨hequal, .inl hsession⟩
  · refine .inr ⟨hequal, .inr ⟨hsession, Nat.lt_of_le_of_ne hindex fun heq => hne ?_⟩⟩
    rw [key, key, hsession, heq]

theorem Precedes.count_le {a b : RecordCount} (h : a.Precedes b) : b.count ≤ a.count := by
  rcases h with hmore | ⟨hequal, -⟩
  · exact hmore.le
  · exact hequal.ge

end RecordCount

namespace Aggregates

variable {results results' : List QueryResult}

/-! ### Counted records -/

/-- The records are sorted in the same way in whatever order they have been counted. -/
theorem mergeSort_recordCounts {counted : List RecordCount}
    (h : counted.Perm (recordCounts results)) :
    counted.mergeSort RecordCount.notAfter = recordCounts results :=
  mergeSort_congr RecordCount.notAfter_trans RecordCount.notAfter_total
    RecordCount.notAfter_antisymm (h.trans (recordCounts_perm results))

theorem recordCounts_congr (h : results.Perm results') :
    recordCounts results = recordCounts results' := by
  rw [recordCounts_eq results]
  refine mergeSort_recordCounts (List.Perm.trans ?_ (recordCounts_perm results').symm)
  exact (tally_perm (h.map QueryResult.key)).map _

theorem mem_recordCounts {c : RecordCount} : c ∈ recordCounts results ↔
    c.key ∈ results.map QueryResult.key ∧
      c.count = (results.map QueryResult.key).count c.key := by
  rw [(recordCounts_perm results).mem_iff, countedRecords, List.mem_map]
  constructor
  · rintro ⟨entry, hentry, rfl⟩
    exact mem_tally.mp hentry
  · intro h
    exact ⟨(c.key, c.count), mem_tally.mpr h, rfl⟩

theorem nodup_recordCounts (results : List QueryResult) :
    ((recordCounts results).map RecordCount.key).Nodup := by
  rw [((recordCounts_perm results).map _).nodup_iff, map_key_countedRecords]
  exact Phonex.nodup_eraseDups _

theorem length_recordCounts (results : List QueryResult) :
    (recordCounts results).length = (results.map QueryResult.key).eraseDups.length := by
  rw [(recordCounts_perm results).length_eq, ← map_key_countedRecords, List.length_map]

/-- Every result belongs to one of the records. -/
theorem existsUnique_recordCounts {r : QueryResult} (h : r ∈ results) :
    ∃! c, c ∈ recordCounts results ∧ c.key = r.key := by
  have hmem : r.key ∈ results.map QueryResult.key := List.mem_map_of_mem h
  refine ⟨⟨r.session, r.recordIndex, (results.map QueryResult.key).count r.key⟩,
    ⟨mem_recordCounts.mpr ⟨hmem, rfl⟩, rfl⟩, ?_⟩
  rintro ⟨session, i, n⟩ ⟨hc, hkey⟩
  obtain ⟨rfl, rfl⟩ := Prod.mk.inj hkey
  have hn : n = (results.map QueryResult.key).count r.key := (mem_recordCounts.mp hc).2
  rw [hn]

theorem pairwise_recordCounts (results : List QueryResult) :
    (recordCounts results).Pairwise RecordCount.Precedes := by
  have hsorted : (recordCounts results).Pairwise (fun a b => a.notAfter b = true) :=
    List.pairwise_mergeSort RecordCount.notAfter_trans RecordCount.notAfter_total _
  exact hsorted.imp₂ (fun a b => RecordCount.precedes_of_notAfter)
    (List.pairwise_map.mp (nodup_recordCounts results))

/-- A record that comes behind others has no more results than these. -/
theorem count_le_of_mem_drop {l : List RecordCount} (hsorted : l.Pairwise RecordCount.Precedes)
    {n : Nat} {omitted listed : RecordCount} (homitted : omitted ∈ l.drop n)
    (hlisted : listed ∈ l.take n) : omitted.count ≤ listed.count := by
  rw [← List.take_append_drop n l, List.pairwise_append] at hsorted
  exact (hsorted.2.2 listed hlisted omitted homitted).count_le

/-! ### Groups with results -/

theorem groupKeys_congr (h : results.Perm results') :
    (groupKeys results).Perm (groupKeys results') := eraseDups_congr (h.filterMap _)

variable {groups groups' : List GroupKey}

/-- Scores add up to the same in whatever order the groups are taken together. -/
theorem totalScore_congr (corpus : Corpus) (h : groups.Perm groups') (features : FeatureSet)
    (ignoreDiacritics : Bool) : totalScore corpus groups features ignoreDiacritics =
      totalScore corpus groups' features ignoreDiacritics :=
  AlignedScore.sum_perm (h.filterMap _) features ignoreDiacritics

theorem scoreTotals_congr (corpus : Corpus) (h : groups.Perm groups') (options : ScoreOptions) :
    scoreTotals corpus groups options = scoreTotals corpus groups' options := by
  simp only [scoreTotals, totalScore_congr corpus h]

/-! ### Aggregates -/

/-- Aggregates do not depend on the order of results. -/
theorem ofResults_congr (h : results.Perm results') (corpus : Corpus) (options : ScoreOptions) :
    ofResults results corpus options = ofResults results' corpus options := by
  have hkeys := (eraseDups_congr (h.map QueryResult.key)).length_eq
  have hsessions := (eraseDups_congr (h.map (·.session))).length_eq
  have hgroups := groupKeys_congr h
  have htiers := nameTally_congr (h.filterMap fun r => r.primary.map (·.tier.text))
  have hspeakers := nameTally_congr (h.map fun r => speakerName (record? corpus r.key))
  simp only [ofResults, h.length_eq, hkeys, hsessions, hgroups.length_eq, htiers, hspeakers,
    scoreTotals_congr corpus hgroups, recordCounts_congr h]

theorem length_values (results : List QueryResult) :
    (results.filterMap fun r => r.primary.map (·.tier.text)).length =
      results.countP fun r => !r.values.isEmpty := by
  rw [List.length_filterMap_eq_countP]
  refine List.countP_congr fun r _ => ?_
  cases hvalues : r.values <;> simp [QueryResult.primary, hvalues]

/-- **Conservation.**  The aggregates of results do not depend on the order of the results, nor on
the order in which the groups that are scored and the records that are sorted are gone through.  The
numbers of results of the speakers add up to the number of results, those of the tiers to the number
of results with a value.  Every result belongs to one of the counted records, which have the numbers
of their results; the records that are listed are the first 20 of these, or all if there are less,
by descending number of results, then by session and by number, and no other one has more results
than one that is listed.  If there are less than 2 ^ 32 results, all these numbers are less, too. -/
theorem ofResults_conserves (results : List QueryResult) (corpus : Corpus)
    (options : ScoreOptions) :
    let a := ofResults results corpus options
    (∀ results' : List QueryResult, results'.Perm results →
      ofResults results' corpus options = a) ∧
    (∀ groups : List GroupKey, groups.Perm (groupKeys results) →
      a.scores = if options.isEnabled then some (scoreTotals corpus groups options) else none) ∧
    (a.bySpeaker.map Prod.snd).sum = results.length ∧
    (a.byTier.map Prod.snd).sum = results.countP (fun r => !r.values.isEmpty) ∧
    (∃ counted : List RecordCount,
      (∀ r ∈ results, ∃! c, c ∈ counted ∧ c.key = r.key) ∧
      (∀ c ∈ counted, 0 < c.count ∧ c.count = results.countP (fun r => r.key == c.key)) ∧
      (counted.map (·.count)).sum = results.length ∧ counted.length = a.recordsWithResults ∧
      counted.Pairwise RecordCount.Precedes ∧
      (∀ records : List RecordCount, records.Perm counted →
        a.densest = (records.mergeSort RecordCount.notAfter).take (min 20 records.length)) ∧
      a.densest = counted.take (min 20 counted.length) ∧
      ∀ omitted ∈ counted.drop (min 20 counted.length), ∀ listed ∈ a.densest,
        omitted.count ≤ listed.count) ∧
    (results.length < 2 ^ 32 → ∀ n ∈ a.counters, n < 2 ^ 32) := by
  intro a
  have hdensest : a.densest = (recordCounts results).take (min 20 (recordCounts results).length) :=
    List.take_eq_take_min
  have hsorted := pairwise_recordCounts results
  refine ⟨fun results' h => ofResults_congr h corpus options, fun groups h => ?_, ?_, ?_,
    ⟨recordCounts results, fun r hr => existsUnique_recordCounts hr, fun c hc => ?_,
      sum_recordCounts results, length_recordCounts results, hsorted, fun records h => ?_, hdensest,
      fun omitted homitted listed hlisted => ?_⟩, fun hless n hn => ?_⟩
  · rw [scoreTotals_congr corpus h]
    rfl
  · exact (sum_nameTally _).trans (List.length_map _)
  · exact (sum_nameTally _).trans (length_values results)
  · obtain ⟨hkey, hcount⟩ := mem_recordCounts.mp hc
    rw [hcount]
    refine ⟨List.count_pos_iff.mpr hkey, ?_⟩
    rw [List.count, List.countP_map]
    rfl
  · rw [mergeSort_recordCounts h, h.length_eq]
    exact hdensest
  · rw [hdensest] at hlisted
    exact count_le_of_mem_drop hsorted homitted hlisted
  · exact (counters_le results corpus options n hn).trans_lt hless

/-- Three results, two of them from one record, and one without a value. -/
def threeResults : List QueryResult :=
  let value := ResultValue.ofTier .notes 0 ⟨0, 1⟩ ['k']
  let result (session : String) (values : List ResultValue) : QueryResult :=
    ⟨session.toList, 0, .linear, values, []⟩
  [result "T" [value], result "S" [], result "S" [value]]

theorem ofResults_conserves_three :
    threeResults.reverse.Perm threeResults ∧ threeResults.length < 2 ^ 32 ∧
    let a := ofResults threeResults [] { consonants := true }
    ofResults threeResults.reverse [] { consonants := true } = a ∧
    (a.bySpeaker.map Prod.snd).sum = 3 ∧ (a.byTier.map Prod.snd).sum = 2 ∧
    ∀ n ∈ a.counters, n < 2 ^ 32 := by
  have hperm : threeResults.reverse.Perm threeResults := List.reverse_perm _
  have hless : threeResults.length < 2 ^ 32 := by decide
  obtain ⟨hreversed, -, hspeakers, htiers, -, hcounters⟩ :=
    ofResults_conserves threeResults [] { consonants := true }
  exact ⟨hperm, hless, hreversed _ hperm, hspeakers, htiers, hcounters hless⟩

end Aggregates

end PhoneticSearch
