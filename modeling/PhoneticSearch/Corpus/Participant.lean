import PhoneticSearch.Calendar.Age
import PhoneticSearch.Json.Decode

/-!
# Participants

The people who take part in a session.
-/

namespace PhoneticSearch

/-- A person who takes part in a session. -/
structure Participant where
  /-- The name that records refer to. -/
  id : Text
  name : Option Text := none
  role : Text := []
  birth : Option Date := none
deriving DecidableEq

namespace Participant

/-- The age of a participant on a date, where the birth is known. -/
def ageAt (p : Participant) (date : Date) : Option Age := p.birth.bind (Age.between · date)

/-- The name of a participant, or the id of one without a name. -/
def displayName (p : Participant) : Text := p.name.getD p.id

/-- Decodes a record that has to have an id. -/
def decode : Decoder Participant := fun j => do
  let row ← Row.ofJson ["id", "name", "role", "birth_date"] j
  return {
    id := ← row.required "id" .text
    name := ← row.withDefault "name" (.optional .text) none
    role := ← row.withDefault "role" .text []
    birth := ← row.withDefault "birth_date" (.optional (.parsed Date.read)) none }

end Participant

end PhoneticSearch
