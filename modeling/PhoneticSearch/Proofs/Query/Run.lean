import PhoneticSearch.Query.Run

/-!
# What a run delivers

A run keeps four accounts: the results that it has collected, the number of records that
it has searched, the number of results that it has found, and what it has reported.
`RunUpTo` says how they hang together when the run has come to the end of some records,
and whether it goes on from there.  It holds at the start and is kept by a step over one
more record (`RunUpTo.step`), so it holds at the end of a run (`runState_upTo`),
whenever the run is cancelled.  The records are gone through in the order of the corpus
(`Corpus.getElem?_records`).
-/

namespace PhoneticSearch.Query

variable (q : Query)

/-- The results of some records, record by record. -/
def recordResults (records : List (Session × Nat × Record)) : List QueryResult :=
  records.flatMap fun (session, index, record) => q.results session index record

/-- The state of a run that has come to the end of some records. -/
structure RunUpTo (cancellation : Cancellation) (passed : List (Session × Nat × Record))
    (state : RunState) : Prop where
  /-- The records that were searched are the first ones, and each was searched as a whole. -/
  collected : state.collection.added = q.recordResults (passed.take state.searched)
  found : state.found = state.collection.size
  reports : state.reports = List.range' 1 state.searched
  searched_le : state.searched ≤ passed.length
  /-- A run that goes on has passed over no record. -/
  running : state.cancelled = false → state.searched = passed.length
  before : cancellation = .before → state.cancelled = true ∧ state.searched = 0
  after : ∀ n ∈ state.reports, cancellation = .after n →
    state.cancelled = true ∧ state.searched = n
  cancelled : state.cancelled = true →
    cancellation = .before ∨ ∃ n ∈ state.reports, cancellation = .after n

variable {q} in
theorem runStep_running {cancellation : Cancellation} {state : RunState}
    (h : ¬ state.cancelled = true) (x : Session × Nat × Record) :
    q.runStep cancellation state x =
      { collection := state.collection.add (q.results x.1 x.2.1 x.2.2)
        searched := state.searched + 1
        found := state.found + (q.results x.1 x.2.1 x.2.2).length
        reports := state.reports ++ [state.searched + 1]
        cancelled := cancellation.atReport (state.searched + 1) } :=
  if_neg h

namespace RunUpTo

variable {q} {cancellation : Cancellation} {passed : List (Session × Nat × Record)}
  {state : RunState}

theorem start (q : Query) (cancellation : Cancellation) :
    q.RunUpTo cancellation [] (.start cancellation) :=
  { collected := rfl
    found := rfl
    reports := rfl
    searched_le := Nat.le_refl 0
    running := fun _ => rfl
    before := fun h => ⟨by rw [h]; rfl, rfl⟩
    after := fun n hn => by cases hn
    cancelled := fun h => by
      cases cancellation with
      | before => exact Or.inl rfl
      | never | after _ => cases h }

/-- A run that was cancelled passes over the next record. -/
theorem stopped (h : q.RunUpTo cancellation passed state) (hcancelled : state.cancelled = true)
    (x : Session × Nat × Record) : q.RunUpTo cancellation (passed ++ [x]) state :=
  { h with
    collected := by rw [List.take_append_of_le_length h.searched_le, h.collected]
    searched_le := by
      rw [List.length_append]
      exact Nat.le_add_right_of_le h.searched_le
    running := fun hrunning => by rw [hrunning] at hcancelled; cases hcancelled }

/-- A run that goes on searches the next record, reports it, and is cancelled if this is
the report that it is cancelled at. -/
theorem searched (h : q.RunUpTo cancellation passed state) (hrunning : state.cancelled = false)
    (x : Session × Nat × Record) :
    q.RunUpTo cancellation (passed ++ [x]) (q.runStep cancellation state x) := by
  rw [runStep_running (by rw [hrunning]; exact Bool.false_ne_true)]
  have hall : state.searched + 1 = (passed ++ [x]).length := by
    rw [h.running hrunning, List.length_append, List.length_singleton]
  -- The token was not set by any earlier report.
  have hearlier : ∀ n ∈ state.reports, cancellation ≠ .after n := by
    intro n hn hafter
    have := (h.after n hn hafter).1
    rw [hrunning] at this
    cases this
  refine
    { collected := ?_, found := ?_, reports := ?_, searched_le := Nat.le_of_eq hall
      running := fun _ => hall, before := ?_, after := ?_, cancelled := ?_ }
  · rw [hall, List.take_length, recordResults, List.flatMap_append, List.flatMap_singleton]
    show state.collection.added ++ _ = _
    rw [h.collected, h.running hrunning, List.take_length]
    rfl
  · show _ = (state.collection.added ++ _).length
    rw [List.length_append, h.found]
    rfl
  · rw [h.reports, List.range'_1_concat, Nat.add_comm 1]
  · intro hbefore
    have := (h.before hbefore).1
    rw [hrunning] at this
    cases this
  · intro n hn hafter
    rcases List.mem_append.mp hn with hn | hn
    · exact absurd hafter (hearlier n hn)
    · obtain rfl := List.mem_singleton.mp hn
      exact ⟨beq_iff_eq.mpr hafter, rfl⟩
  · intro hcancelled
    exact Or.inr ⟨_, List.mem_append_right _ List.mem_cons_self, beq_iff_eq.mp hcancelled⟩

/-- One step of a run. -/
theorem step (h : q.RunUpTo cancellation passed state) (x : Session × Nat × Record) :
    q.RunUpTo cancellation (passed ++ [x]) (q.runStep cancellation state x) := by
  by_cases hcancelled : state.cancelled = true
  · have hstep : q.runStep cancellation state x = state := if_pos hcancelled
    rw [hstep]
    exact h.stopped hcancelled x
  · exact h.searched (Bool.eq_false_iff.mpr hcancelled) x

/-- A run over some more records. -/
theorem foldl (records : List (Session × Nat × Record)) :
    ∀ {passed : List (Session × Nat × Record)} {state : RunState},
      q.RunUpTo cancellation passed state →
      q.RunUpTo cancellation (passed ++ records)
        (records.foldl (q.runStep cancellation) state) := by
  induction records with
  | nil =>
    intro passed state h
    rwa [List.append_nil]
  | cons x records ih =>
    intro passed state h
    have hrest := ih (h.step x)
    rwa [List.append_assoc, List.singleton_append] at hrest

end RunUpTo

theorem runState_upTo (corpus : Corpus) (cancellation : Cancellation) :
    q.RunUpTo cancellation corpus.records (q.runState corpus cancellation) :=
  RunUpTo.foldl corpus.records (.start q cancellation)

/-- A run delivers the results of the first records of a corpus, each record as a whole, and
accounts for them: its counts are those of the records and of their results, and it has
reported each record in turn.  It goes through all records unless it is cancelled, and it
is cancelled before the first record or at one of its reports, where it stops. -/
theorem run_delivers_prefix (corpus : Corpus) (cancellation : Cancellation) :
    let delivered := (q.run corpus cancellation).1.added
    let summary := (q.run corpus cancellation).2
    let reports := (q.runState corpus cancellation).reports
    delivered = q.recordResults (corpus.records.take summary.searched) ∧
    summary.results = delivered.length ∧
    reports = List.range' 1 summary.searched ∧
    summary.total = corpus.records.length ∧
    summary.searched ≤ summary.total ∧
    (summary.cancelled = true ↔
      cancellation = .before ∨ ∃ n ∈ reports, cancellation = .after n) ∧
    (summary.cancelled = false → summary.searched = summary.total) ∧
    (cancellation = .before → summary.searched = 0) ∧
    (∀ n ∈ reports, cancellation = .after n → summary.searched = n) := by
  have h := q.runState_upTo corpus cancellation
  refine ⟨h.collected, h.found, h.reports, rfl, h.searched_le, ⟨h.cancelled, ?_⟩, h.running,
    fun hbefore => (h.before hbefore).2, fun n hn hafter => (h.after n hn hafter).2⟩
  rintro (hbefore | ⟨n, hn, hafter⟩)
  · exact (h.before hbefore).1
  · exact (h.after n hn hafter).1

/-- A corpus of two sessions, with two records and one. -/
def threeRecords : Corpus :=
  let record (t : String) : Record := ⟨none, none, [⟨t.toList, [], [], ⟨[]⟩, []⟩], none, []⟩
  let session (name : String) (records : List Record) : Session := ⟨name.toList, none, [], records⟩
  [session "S" [record "a", record "banana"], session "T" [record "a"]]

/-- A search for a letter. -/
def letterConfig : QueryConfig :=
  { searchTier := .orthography, primary := { expression := ['a'], caseSensitive := true } }

/-- A run that is cancelled when the second record is reported has all the hits of that record, and
none of the third. -/
example : ∃ q, ofConfig letterConfig true = .ok q ∧
    let (collection, summary) := q.run threeRecords (.after 2)
    summary = ⟨3, 2, 4, true⟩ ∧ (q.runState threeRecords (.after 2)).reports = [1, 2] ∧
      collection.added.map QueryResult.key =
        [(['S'], 0), (['S'], 1), (['S'], 1), (['S'], 1)] :=
  ⟨_, rfl, by decide +kernel⟩

end PhoneticSearch.Query
