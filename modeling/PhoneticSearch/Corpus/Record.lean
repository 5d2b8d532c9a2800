import PhoneticSearch.Corpus.Participant
import PhoneticSearch.Pattern.Value
import PhoneticSearch.Tier.Name

/-!
# Records and their groups

A session is a list of records, and a record a list of groups.  A group has an
orthography, a target and an actual transcription with an alignment of their phones,
and user tiers of its own; a record has user tiers for all its groups.
-/

namespace PhoneticSearch

/-- The user tiers of a group or record: their names, each once, with their texts. -/
abbrev UserTiers := List (Text × Text)

/-- One group of a record. -/
structure Group where
  orthography : Text
  target : Transcription
  actual : Transcription
  alignment : Alignment
  tiers : UserTiers
deriving DecidableEq

namespace Group

/-- The transcription of a side. -/
def transcription (g : Group) : Side → Transcription
  | .target => g.target
  | .actual => g.actual

/-- The text that a group has on a tier which is no transcription. -/
def text? (g : Group) : TierName → Option Text
  | .orthography => some g.orthography
  | .user name => g.tiers.lookup name
  | _ => none

/-- The value that a group has on a tier. -/
def tierValue (g : Group) : TierName → Option Value
  | .ipa side => some (.transcription (g.transcription side))
  | tier => (g.text? tier).map .text

/-- Whether a group has a user tier of its own. -/
def hasUserTier (g : Group) (name : Text) : Bool := (g.tiers.lookup name).isSome

end Group

/-- One record of a session. -/
structure Record where
  speaker : Option Participant
  /-- The date of the recording. -/
  date : Option Date
  groups : List Group
  notes : Option Text
  tiers : UserTiers
deriving DecidableEq

namespace Record

/-- Whether a record has a tier, on all its groups or on one of them. -/
def hasTier (r : Record) : TierName → Bool
  | .orthography => true
  | .ipa _ => true
  | .notes => r.notes.isSome
  | .user name => (r.tiers.lookup name).isSome || r.groups.any (·.hasUserTier name)

end Record

/-- One session of a corpus. -/
structure Session where
  name : Text
  date : Option Date
  participants : List Participant
  records : List Record
deriving DecidableEq

/-- A list of sessions. -/
abbrev Corpus := List Session

end PhoneticSearch
