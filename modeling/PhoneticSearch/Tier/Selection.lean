import PhoneticSearch.Filter.Basic
import PhoneticSearch.Result.Basic
import PhoneticSearch.Tier.Derived

/-!
# Selections of tiers

A selection is a comma separated list of tiers whose values go into each result.
Stored tiers become values of the result, derived tiers become metadata; a name that
the record stores goes before a derived tier of the same name.
-/

namespace PhoneticSearch

/-- A tier of a selection, with the name it was asked for by. -/
structure SelectedTier where
  name : Text
  request : TierRequest

/-- A list of tiers. -/
structure TierSelection where
  id : Text
  tiers : List SelectedTier
  state : FilterState := {}

/-- What a selection finds for an object. -/
structure TierData where
  values : List ResultValue := []
  metadata : Metadata := []
deriving DecidableEq

namespace TierSelection

/-- The selection that a list of names asks for; names that cannot be read are left
out. -/
def read (id names : Text) : TierSelection :=
  { id
    tiers := (Text.items ',' names).filterMap fun name =>
      match TierRequest.read name with
      | .ok request => some ⟨name, request⟩
      | .error _ => none }

/-- The names of the tiers. -/
def names (s : TierSelection) : List Text := s.tiers.map (·.name)

/-- Whether a selection takes part in a query. -/
def inUse (s : TierSelection) : Bool := s.state.enabled && !s.tiers.isEmpty

/-- A name with a label behind it. -/
def labelled (name : Text) (label : Text) : Text := name ++ [' ', '('] ++ label ++ [')']

/-- The value of an object on a stored tier. -/
def storedValue (label : Text) (o : SearchObject) (tier : TierName) : ResultValue :=
  let value := (o.tierValue tier).map Value.render
  let span := match value with
    | some text => (⟨0, Text.size text⟩ : Span).shift (o.tierOffset tier)
    | none => ⟨0, 0⟩
  ⟨tier, labelled tier.text label, o.groupIndex, span, value.getD []⟩

/-- The stored tier that a selected tier is in a record: the tier that it asks for,
or the one of the same name as a derived tier, if the record has it. -/
def storedTier? (record : Record) (t : SelectedTier) : Option TierName :=
  match t.request with
  | .stored tier => if record.hasTier tier then some tier else none
  | _ =>
    let tier := TierName.read t.name
    if record.hasTier tier then some tier else none

/-- The data of an object with one more tier. -/
def addTier (record : Record) (label : Text) (o : SearchObject) (data : TierData)
    (t : SelectedTier) : TierData :=
  match storedTier? record t with
  | some tier => { data with values := data.values ++ [storedValue label o tier] }
  | none =>
    match t.request.render o with
    | some text =>
      { data with metadata := data.metadata.set (labelled (t.request.title t.name) label) text }
    | none => data

/-- The data of an object on the tiers of a selection, under names with a label. -/
def data (s : TierSelection) (record : Record) (label : Text) (o : SearchObject) : TierData :=
  if s.state.enabled then s.tiers.foldl (addTier record label o) {} else {}

/-- The parameters of a selection. -/
def parameters (s : TierSelection) : List Parameter :=
  [.ofText s.id "tiers" "Tier names:" (Text.join [',', ' '] s.names)]

end TierSelection

end PhoneticSearch
