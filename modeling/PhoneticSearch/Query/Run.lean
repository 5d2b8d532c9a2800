import PhoneticSearch.Query.Basic
import PhoneticSearch.Result.Collection

/-!
# Running a query

A run goes through the records of a corpus in order, adds the results of each to a
collection as one batch, and then reports the number of finished records.  It may be
cancelled before the first record, or when such a number is reported; the record that
is searched then is the last one.
-/

namespace PhoneticSearch

/-- When a run is cancelled. -/
inductive Cancellation where
  | never
  /-- Before the first record. -/
  | before
  /-- When so many records are reported as finished. -/
  | after (finished : Nat)
deriving DecidableEq

namespace Cancellation

/-- Whether a run is cancelled when it starts. -/
def atStart : Cancellation → Bool
  | before => true
  | _ => false

/-- Whether a run is cancelled when a number of finished records is reported. -/
def atReport (c : Cancellation) (finished : Nat) : Bool := c == after finished

end Cancellation

/-- The state of a run. -/
structure RunState where
  collection : ResultCollection
  /-- The number of records that have been searched. -/
  searched : Nat
  /-- The number of results that have been found. -/
  found : Nat
  /-- The numbers of finished records that have been reported, in order. -/
  reports : List Nat
  cancelled : Bool

/-- The state in which a run starts. -/
def RunState.start (cancellation : Cancellation) : RunState :=
  ⟨.empty, 0, 0, [], cancellation.atStart⟩

/-- What a run has done. -/
structure RunSummary where
  /-- The number of records of the corpus. -/
  total : Nat
  searched : Nat
  /-- The number of results. -/
  results : Nat
  cancelled : Bool
deriving DecidableEq

namespace Corpus

/-- The records of a corpus in order, each with its session and its number there. -/
def records (corpus : Corpus) : List (Session × Nat × Record) :=
  corpus.flatMap fun s => s.records.zipIdx.map fun (r, i) => (s, i, r)

variable {corpus : Corpus} {s : Session} {i k : Nat} {r : Record}

theorem mem_records : (s, i, r) ∈ corpus.records ↔ s ∈ corpus ∧ s.records[i]? = some r := by
  rw [records, List.mem_flatMap]
  constructor
  · rintro ⟨s', hs', h⟩
    obtain ⟨⟨r', i'⟩, hr', h⟩ := List.mem_map.mp h
    obtain ⟨rfl, rfl, rfl⟩ : s' = s ∧ i' = i ∧ r' = r := by simpa only [Prod.mk.injEq] using h
    exact ⟨hs', List.mem_zipIdx_iff_getElem?.mp hr'⟩
  · rintro ⟨hs, hr⟩
    exact ⟨s, hs, List.mem_map.mpr ⟨(r, i), List.mem_zipIdx_iff_getElem?.mpr hr, rfl⟩⟩

theorem records_cons (s : Session) (corpus : Corpus) :
    records (s :: corpus) = (s.records.zipIdx.map fun (r, i) => (s, i, r)) ++ records corpus :=
  List.flatMap_cons

/-- Sessions follow one another, and the records of a session are in their own order: in front of a
record are those of the sessions in front, and as many of its own as its number says. -/
theorem getElem?_records (hs : corpus[k]? = some s) (hr : s.records[i]? = some r) :
    corpus.records[(records (corpus.take k)).length + i]? = some (s, i, r) := by
  induction corpus generalizing k with
  | nil => cases hs
  | cons first corpus ih =>
    rw [records_cons]
    cases k with
    | zero =>
      obtain rfl := Option.some.inj hs
      obtain ⟨hlt, -⟩ := List.getElem?_eq_some_iff.mp hr
      rw [List.take_zero, show (records []).length = 0 from rfl, Nat.zero_add,
        List.getElem?_append_left (by simpa using hlt), List.getElem?_map, List.getElem?_zipIdx, hr]
      simp
    | succ k =>
      rw [List.take_succ_cons, records_cons, List.length_append, Nat.add_assoc,
        List.getElem?_append_right (Nat.le_add_right _ _), Nat.add_sub_cancel_left]
      exact ih hs

end Corpus

namespace Query

variable (q : Query)

/-- The state of a run after one more record; a cancelled run does not change. -/
def runStep (cancellation : Cancellation) (state : RunState) :
    Session × Nat × Record → RunState
  | (session, index, record) =>
    if state.cancelled then state
    else
      let results := q.results session index record
      let searched := state.searched + 1
      { collection := state.collection.add results
        searched
        found := state.found + results.length
        reports := state.reports ++ [searched]
        cancelled := cancellation.atReport searched }

/-- The state of a run after the last record. -/
def runState (corpus : Corpus) (cancellation : Cancellation) : RunState :=
  corpus.records.foldl (q.runStep cancellation) (.start cancellation)

/-- Runs a query over a corpus. -/
def run (corpus : Corpus) (cancellation : Cancellation) : ResultCollection × RunSummary :=
  let state := q.runState corpus cancellation
  (state.collection,
    { total := corpus.records.length
      searched := state.searched
      results := state.found
      cancelled := state.cancelled })

end Query

end PhoneticSearch
