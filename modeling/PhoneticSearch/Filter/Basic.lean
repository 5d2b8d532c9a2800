import PhoneticSearch.Text.Basic

/-!
# Filters

A filter has an id, from which the ids of its parameters are made, and may be
switched off and hidden.  What it keeps is defined with each kind of filter.
-/

namespace PhoneticSearch

/-- The value that a parameter starts with. -/
inductive ParameterDefault where
  | text (value : Text)
  | bool (value : Bool)
  /-- One of some options, by its number. -/
  | choice (options : List String) (selected : Nat)
deriving DecidableEq

/-- A parameter of a filter. -/
structure Parameter where
  id : Text
  title : String
  default : ParameterDefault
deriving DecidableEq

namespace Parameter

/-- The id of a parameter of a filter. -/
def idIn (filter : Text) (name : String) : Text := filter ++ '.' :: name.toList

/-- A parameter that is a text. -/
def ofText (filter : Text) (name title : String) (value : Text) : Parameter :=
  ⟨idIn filter name, title, .text value⟩

/-- A parameter that is a switch. -/
def ofBool (filter : Text) (name title : String) (value : Bool) : Parameter :=
  ⟨idIn filter name, title, .bool value⟩

/-- A parameter that is one of some options. -/
def ofChoice (filter : Text) (name title : String) (options : List String) (selected : Nat) :
    Parameter :=
  ⟨idIn filter name, title, .choice options selected⟩

end Parameter

/-- Whether a filter is switched on, and whether it is shown. -/
structure FilterState where
  enabled : Bool := true
  visible : Bool := true
deriving DecidableEq

namespace FilterState

/-- A state with the filter switched on or off. -/
def setEnabled (s : FilterState) (on : Bool) : FilterState := { s with enabled := on }

/-- A state with the filter shown or hidden. -/
def setVisible (s : FilterState) (on : Bool) : FilterState := { s with visible := on }

end FilterState

end PhoneticSearch
