import PhoneticSearch.Corpus.SearchObject
import PhoneticSearch.Filter.Basic
import PhoneticSearch.Pattern.Compiled

/-!
# Pattern filters

A pattern filter applies a pattern to values.  A filter whose pattern is empty or
cannot be compiled is not in use and accepts nothing.
-/

namespace PhoneticSearch

/-- A pattern, compiled if it is not empty. -/
structure PatternFilter where
  id : Text
  spec : PatternSpec
  compiled : Option (Except (Located PatternFault) CompiledPattern)
  state : FilterState := {}

namespace PatternFilter

/-- The filter of a pattern. -/
def ofSpec (id : Text) (spec : PatternSpec) : PatternFilter :=
  { id, spec
    compiled := if spec.expression.isEmpty then none else some (CompiledPattern.compile spec) }

/-- The fault of a pattern that is not empty and cannot be compiled. -/
def fault? (f : PatternFilter) : Option (Located PatternFault) :=
  match f.compiled with
  | some (.error e) => some e
  | _ => none

/-- The pattern, if it could be compiled. -/
def pattern? (f : PatternFilter) : Option CompiledPattern :=
  match f.compiled with
  | some (.ok p) => some p
  | _ => none

/-- Whether a filter takes part in a query. -/
def inUse (f : PatternFilter) : Bool := f.state.enabled && f.pattern?.isSome

/-- Whether the pattern matches a value, as a whole or somewhere in it. -/
def check (f : PatternFilter) (v : Value) : Bool :=
  match f.pattern? with
  | none => false
  | some p => if f.spec.exact then p.isWhole v else !(p.find v).isEmpty

/-- The whole of a value as a hit; plain patterns and regular expressions find
texts. -/
def wholeHit (f : PatternFilter) (v : Value) : Hit :=
  let whole := if f.spec.dialect.supportsCase then Value.text v.render else v
  ⟨⟨0, whole.extent⟩, whole⟩

/-- The hits of the pattern in a value. -/
def find (f : PatternFilter) (v : Value) : List Hit :=
  match f.pattern? with
  | none => []
  | some p =>
    if !f.spec.exact then p.find v
    else if p.isWhole v then [f.wholeHit v] else []

/-- Whether the value that an object has on a tier is accepted; an object without a
value is not. -/
def accepts (f : PatternFilter) (tier : TierName) (o : SearchObject) : Bool :=
  (o.tierValue tier).any f.check

/-- The objects that are accepted. -/
def keep (f : PatternFilter) (tier : TierName) (objects : List SearchObject) :
    List SearchObject :=
  objects.filter (f.accepts tier)

/-- The parameters of a filter. -/
def parameters (f : PatternFilter) : List Parameter :=
  [.ofText f.id "filter" "Expression:" f.spec.expression,
   .ofChoice f.id "filterType" "Expression type:" (Dialect.all.map Dialect.title)
    (Dialect.all.idxOf f.spec.dialect),
   .ofBool f.id "caseSensitive" "Case sensitive" f.spec.caseSensitive,
   .ofBool f.id "exactMatch" "Exact match" f.spec.exact]

/-- A filter switched on or off. -/
def setEnabled (f : PatternFilter) (on : Bool) : PatternFilter :=
  { f with state := f.state.setEnabled on }

end PatternFilter

end PhoneticSearch
