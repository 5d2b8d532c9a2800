import PhoneticSearch.Json.Decode
import PhoneticSearch.Tier.Name

/-!
# Results

A result is a hit in a record: its primary value says what was found where, and the
other values are those of the tiers that were asked for.
-/

namespace PhoneticSearch

/-- A value of a result. -/
structure ResultValue where
  tier : TierName
  /-- The name that the value is shown under. -/
  name : Text
  /-- The number of the group in its record. -/
  groupIndex : Nat
  /-- The bytes of the value of the group that the value stands at. -/
  span : Span
  data : Text
deriving DecidableEq

/-- A value that is shown under the name of its tier. -/
def ResultValue.ofTier (tier : TierName) (groupIndex : Nat) (span : Span) (data : Text) :
    ResultValue :=
  ⟨tier, tier.text, groupIndex, span, data⟩

/-- How the values of a result belong together. -/
inductive ResultSchema where
  /-- The values are those of aligned transcriptions. -/
  | aligned
  /-- The values are those of a single tier. -/
  | linear
deriving DecidableEq

/-- The name of a schema. -/
def ResultSchema.name : ResultSchema → String
  | aligned => "aligned"
  | linear => "linear"

/-- Texts under names, each name once. -/
abbrev Metadata := List (Text × Text)

namespace Metadata

/-- Metadata with a text under a name, instead of an earlier one. -/
def set (m : Metadata) (name value : Text) : Metadata :=
  m.filter (·.1 != name) ++ [(name, value)]

/-- Metadata with the texts of other metadata, which go before earlier ones. -/
def merge (m other : Metadata) : Metadata :=
  other.foldl (fun m (name, value) => m.set name value) m

end Metadata

/-- A hit in a record. -/
structure QueryResult where
  session : Text
  /-- The number of the record in its session. -/
  recordIndex : Nat
  schema : ResultSchema
  /-- The primary value, then the values of the group, of the word and of the other
  side. -/
  values : List ResultValue
  metadata : Metadata
deriving DecidableEq

namespace QueryResult

/-- The value that was searched for. -/
def primary (r : QueryResult) : Option ResultValue := r.values.head?

/-- The record of a result: the name of its session and its number there. -/
def key (r : QueryResult) : Text × Nat := (r.session, r.recordIndex)

/-- Whether the record of a result is not after the record of another: sessions are
ordered by name, character by character, and records by number. -/
def notAfter (a b : QueryResult) : Bool :=
  a.session < b.session || (a.session == b.session && a.recordIndex ≤ b.recordIndex)

end QueryResult

/-! ### Decoding -/

/-- A span of bytes, whose two ends have to be given. -/
def Span.decode : Decoder Span := fun j => do
  let row ← Row.ofJson ["start", "end"] j
  return ⟨← row.required "start" .count, ← row.required "end" .count⟩

/-- A value with all its fields. -/
def ResultValue.decode : Decoder ResultValue := fun j => do
  let row ← Row.ofJson ["tier_name", "name", "group_index", "range", "data"] j
  return {
    tier := ← row.required "tier_name" TierName.decode
    name := ← row.required "name" .text
    groupIndex := ← row.required "group_index" .count
    span := ← row.required "range" Span.decode
    data := ← row.required "data" .text }

/-- A schema given by its name. -/
def ResultSchema.decode : Decoder ResultSchema :=
  .choice ([aligned, linear].map fun s => (s.name, s))

/-- A result with all its fields. -/
def QueryResult.decode : Decoder QueryResult := fun j => do
  let row ← Row.ofJson ["session", "record_index", "schema", "values", "metadata"] j
  return {
    session := ← row.required "session" .text
    recordIndex := ← row.required "record_index" .count
    schema := ← row.required "schema" ResultSchema.decode
    values := ← row.required "values" (.list ResultValue.decode)
    metadata := ← row.required "metadata" (.entries .text) }

end PhoneticSearch
