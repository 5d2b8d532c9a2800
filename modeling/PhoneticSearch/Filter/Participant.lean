import PhoneticSearch.Corpus.Record
import PhoneticSearch.Filter.Basic
import PhoneticSearch.Text.Lowercase

/-!
# Filters of participants

Records are selected by their speakers: by name or id, by role, and by age at the
recording.  Names and roles are compared in lower case.
-/

namespace PhoneticSearch

/-- How an age is compared with a limit. -/
inductive AgeComparator where
  | lessThan
  | equalTo
  | greaterThan
deriving DecidableEq

namespace AgeComparator

/-- All comparators, in order. -/
def all : List AgeComparator := [lessThan, equalTo, greaterThan]

/-- The name of a comparator. -/
def name : AgeComparator → String
  | lessThan => "less than"
  | equalTo => "equal to"
  | greaterThan => "greater than"

/-- A comparator given by its name. -/
def decode : Decoder AgeComparator := .choice (all.map fun c => (c.name, c))

end AgeComparator

/-- A condition on an age. -/
structure AgeConstraint where
  comparator : AgeComparator
  age : Age
deriving DecidableEq

namespace AgeConstraint

/-- Whether an age meets a condition; equal ages may differ in their days. -/
def accepts (c : AgeConstraint) (age : Age) : Bool :=
  match c.comparator with
  | .lessThan => age.less c.age
  | .greaterThan => c.age.less age
  | .equalTo => age.years == c.age.years && age.months == c.age.months

/-- Decodes a record with both its fields. -/
def decode : Decoder AgeConstraint := fun j => do
  let row ← Row.ofJson ["comparator", "age"] j
  return ⟨← row.required "comparator" AgeComparator.decode,
    ← row.required "age" (.parsed Age.read)⟩

end AgeConstraint

/-- The participants that are asked for; an empty list allows all. -/
structure ParticipantConfig where
  /-- Names or ids. -/
  names : List Text := []
  roles : List Text := []
  ages : List AgeConstraint := []
deriving DecidableEq

namespace ParticipantConfig

/-- Whether nothing is asked for. -/
def isEmpty (c : ParticipantConfig) : Bool :=
  c.names.isEmpty && c.roles.isEmpty && c.ages.isEmpty

/-- Decodes a record with all its fields optional. -/
def decode : Decoder ParticipantConfig := fun j => do
  let row ← Row.ofJson ["names", "roles", "ages"] j
  return {
    names := ← row.withDefault "names" (.list .text) []
    roles := ← row.withDefault "roles" (.list .text) []
    ages := ← row.withDefault "ages" (.list AgeConstraint.decode) [] }

end ParticipantConfig

/-- A filter of the speakers of records. -/
structure ParticipantFilter where
  id : Text
  /-- What is asked for, with names and roles in lower case. -/
  config : ParticipantConfig
  state : FilterState := {}

namespace ParticipantFilter

/-- There are at most so many conditions on the age. -/
def maxAges : Nat := 2

/-- There are too many conditions on the age. -/
structure TooManyAges where
  count : Nat
deriving DecidableEq

/-- The message of too many conditions. -/
def TooManyAges.message (e : TooManyAges) : String :=
  "at most " ++ Nat.repr maxAges ++ " age comparisons are supported, got " ++ Nat.repr e.count

/-- Names in lower case without white space around them; blank ones are left out. -/
def clean (names : List Text) : List Text :=
  ((names.map Text.trim).filter (!·.isEmpty)).map Text.lowercase

/-- The filter that is asked for. -/
def ofConfig (id : Text) (c : ParticipantConfig) : Except TooManyAges ParticipantFilter :=
  if maxAges < c.ages.length then .error ⟨c.ages.length⟩
  else .ok { id, config := ⟨clean c.names, clean c.roles, c.ages⟩ }

/-- Whether a filter takes part in a query. -/
def inUse (f : ParticipantFilter) : Bool := f.state.enabled && !f.config.isEmpty

/-- Whether the name or the id of a participant is accepted. -/
def acceptsName (f : ParticipantFilter) (p : Participant) : Bool :=
  f.config.names.isEmpty || f.config.names.any fun name =>
    name == Text.lowercase p.id || p.name.any (name == Text.lowercase ·)

/-- Whether the role of a participant is accepted. -/
def acceptsRole (f : ParticipantFilter) (p : Participant) : Bool :=
  f.config.roles.isEmpty || f.config.roles.contains (Text.lowercase p.role)

/-- Whether the age of a participant on a date is accepted; an age that is not known
meets no condition. -/
def acceptsAge (f : ParticipantFilter) (p : Participant) (date : Option Date) : Bool :=
  f.config.ages.isEmpty ||
    (date.bind p.ageAt).any fun age => f.config.ages.all (·.accepts age)

/-- Whether a speaker is accepted; a filter in use does not accept a record without
a speaker. -/
def check (f : ParticipantFilter) (speaker : Option Participant) (date : Option Date) : Bool :=
  !f.inUse || speaker.any fun p => f.acceptsName p && f.acceptsRole p && f.acceptsAge p date

/-- The parameters of a condition on the age, by its number. -/
def ageParameters (f : ParticipantFilter) (slot : Nat) : List Parameter :=
  let c := f.config.ages[slot]?
  let name := "age" ++ Nat.repr (slot + 1)
  [.ofChoice f.id (name ++ "Comparator") "Age:" (AgeComparator.all.map (·.name))
    (c.elim 0 fun c => AgeComparator.all.idxOf c.comparator),
   .ofText f.id (name ++ "String") "" (c.elim [] fun c => c.age.render.toList)]

/-- The parameters of a filter. -/
def parameters (f : ParticipantFilter) : List Parameter :=
  [.ofText f.id "participantNames" "Names:" (Text.join [',', ' '] f.config.names),
   .ofText f.id "participantRoles" "Roles:" (Text.join [',', ' '] f.config.roles)] ++
    (List.range maxAges).flatMap f.ageParameters

end ParticipantFilter

end PhoneticSearch
