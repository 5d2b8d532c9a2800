import PhoneticSearch.Filter.Pattern

/-!
# Tier filters

A tier filter applies a pattern to the value that a group or a word has on one tier.
-/

namespace PhoneticSearch

/-- A tier filter as it is asked for. -/
structure TierFilterConfig where
  enabled : Bool := true
  tier : Text := []
  pattern : PatternSpec := {}
deriving DecidableEq

/-- Decodes a record with all its fields optional. -/
def TierFilterConfig.decode : Decoder TierFilterConfig := fun j => do
  let row ← Row.ofJson ["enabled", "tier", "pattern"] j
  return {
    enabled := ← row.withDefault "enabled" .bool true
    tier := ← row.withDefault "tier" .text []
    pattern := ← row.withDefault "pattern" PatternSpec.decode {} }

/-- A pattern for the value of one tier. -/
structure TierFilter where
  id : Text
  /-- The tier; none if the name that was given is blank. -/
  tier : Option TierName
  pattern : PatternFilter
  state : FilterState := {}

namespace TierFilter

/-- A filter switched on or off, together with its pattern. -/
def setEnabled (f : TierFilter) (on : Bool) : TierFilter :=
  { f with state := f.state.setEnabled on, pattern := f.pattern.setEnabled on }

/-- The filter that is asked for. -/
def ofConfig (id : Text) (config : TierFilterConfig) : TierFilter :=
  setEnabled
    { id
      tier := if (Text.trim config.tier).isEmpty then none else some (TierName.read config.tier)
      pattern := .ofSpec (Parameter.idIn id "patternFilter") config.pattern }
    config.enabled

/-- Whether a filter takes part in a query. -/
def inUse (f : TierFilter) : Bool := f.state.enabled && f.tier.isSome && f.pattern.inUse

/-- Whether an object has a value on the tier, and the pattern accepts it. -/
def check (f : TierFilter) (o : SearchObject) : Bool :=
  match f.tier with
  | none => false
  | some tier => f.pattern.accepts tier o

/-- The parameters of a filter. -/
def parameters (f : TierFilter) : List Parameter :=
  .ofText f.id "tier" "Tier name:" (f.tier.elim [] TierName.text) :: f.pattern.parameters

end TierFilter

end PhoneticSearch
