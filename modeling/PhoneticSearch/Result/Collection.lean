import PhoneticSearch.Result.Basic

/-!
# Collections of results

Results are added in batches and handed out in the order of their sessions and
records; results of one record stay in the order they were added in.
-/

namespace PhoneticSearch

/-- The results that have been added, in order. -/
structure ResultCollection where
  added : List QueryResult

namespace ResultCollection

/-- The collection without results. -/
def empty : ResultCollection := ⟨[]⟩

/-- A collection with one more batch. -/
def add (c : ResultCollection) (batch : List QueryResult) : ResultCollection :=
  ⟨c.added ++ batch⟩

/-- The number of results. -/
def size (c : ResultCollection) : Nat := c.added.length

/-- Whether there is no result. -/
def isEmpty (c : ResultCollection) : Bool := c.added.isEmpty

/-- The results in the order of their records. -/
def toList (c : ResultCollection) : List QueryResult := c.added.mergeSort QueryResult.notAfter

end ResultCollection

end PhoneticSearch
