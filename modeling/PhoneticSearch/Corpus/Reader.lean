import PhoneticSearch.Corpus.Record
import PhoneticSearch.Transcription.Reader

/-!
# Reading a corpus

A corpus is a JSON document.  Its transcriptions are texts, its alignments list the
numbers of the phones on each side, and its records name their speakers by id.  The
document is decoded first, and then the sessions are put together in order, up to the
first fault.
-/

namespace PhoneticSearch.Corpus

/-- A group as it is written. -/
structure WrittenGroup where
  orthography : Text
  target : Text
  actual : Text
  ordinals : Option (List (Option Nat × Option Nat))
  tiers : UserTiers

/-- A record as it is written. -/
structure WrittenRecord where
  speaker : Option Text
  date : Option Date
  notes : Option Text
  tiers : UserTiers
  groups : List WrittenGroup

/-- A session as it is written. -/
structure WrittenSession where
  name : Text
  date : Option Date
  participants : List Participant
  records : List WrittenRecord

/-- Why a document is no corpus. -/
inductive Fault where
  /-- The document does not have the form of a corpus. -/
  | malformed
  | transcription (e : Transcription.ReadError)
  | alignment (fault : Alignment.Fault)
  | unknownSpeaker (session id : Text)

/-- The message for a speaker who is no participant of the session. -/
def unknownSpeakerMessage (session id : Text) : String :=
  "session '" ++ session.asString ++ "': unknown speaker '" ++ id.asString ++ "'"

/-! ### Decoding -/

/-- Texts under their names. -/
def decodeTiers : Decoder UserTiers := .entries .text

/-- Pairs of the numbers of phones, either of which may be missing. -/
def decodeOrdinals : Decoder (List (Option Nat × Option Nat)) :=
  .list (.pair (.optional .count) (.optional .count))

/-- A date that may be missing. -/
def decodeDate : Decoder (Option Date) := .optional (.parsed Date.read)

/-- A group with all its fields optional. -/
def decodeGroup : Decoder WrittenGroup := fun j => do
  let row ← Row.ofJson ["orthography", "ipa_target", "ipa_actual", "alignment", "tiers"] j
  return {
    orthography := ← row.withDefault "orthography" .text []
    target := ← row.withDefault "ipa_target" .text []
    actual := ← row.withDefault "ipa_actual" .text []
    ordinals := ← row.withDefault "alignment" (.optional decodeOrdinals) none
    tiers := ← row.withDefault "tiers" decodeTiers [] }

/-- A record with all its fields optional. -/
def decodeRecord : Decoder WrittenRecord := fun j => do
  let row ← Row.ofJson ["speaker", "date", "notes", "tiers", "groups"] j
  return {
    speaker := ← row.withDefault "speaker" (.optional .text) none
    date := ← row.withDefault "date" decodeDate none
    notes := ← row.withDefault "notes" (.optional .text) none
    tiers := ← row.withDefault "tiers" decodeTiers []
    groups := ← row.withDefault "groups" (.list decodeGroup) [] }

/-- A session that has to have a name. -/
def decodeSession : Decoder WrittenSession := fun j => do
  let row ← Row.ofJson ["name", "date", "participants", "records"] j
  return {
    name := ← row.required "name" .text
    date := ← row.withDefault "date" decodeDate none
    participants := ← row.withDefault "participants" (.list Participant.decode) []
    records := ← row.withDefault "records" (.list decodeRecord) [] }

/-- The sessions of a document. -/
def decode : Decoder (List WrittenSession) := fun j => do
  let row ← Row.ofJson ["sessions"] j
  row.required "sessions" (.list decodeSession)

/-! ### Putting together -/

/-- A group with its transcriptions read; without a list of numbers each phone is
aligned with the phone of the same number. -/
def WrittenGroup.build (table : FeatureTable) (g : WrittenGroup) : Except Fault Group := do
  let target ← (Transcription.read table g.target).mapError .transcription
  let actual ← (Transcription.read table g.actual).mapError .transcription
  let alignment ← match g.ordinals with
    | some ordinals => (Alignment.ofOrdinals target actual ordinals).mapError .alignment
    | none => .ok (.positional target actual)
  return ⟨g.orthography, target, actual, alignment, g.tiers⟩

/-- A record with its speaker looked up among the participants of the session.  A
record without a date has the date of the session. -/
def WrittenRecord.build (table : FeatureTable) (s : WrittenSession) (r : WrittenRecord) :
    Except Fault Record := do
  let speaker ← match r.speaker with
    | none => .ok none
    | some id => match s.participants.find? (·.id == id) with
      | some p => .ok (some p)
      | none => .error (.unknownSpeaker s.name id)
  let groups ← r.groups.mapM (·.build table)
  return ⟨speaker, r.date.orElse fun _ => s.date, groups, r.notes, r.tiers⟩

/-- A session with its records put together. -/
def WrittenSession.build (table : FeatureTable) (s : WrittenSession) : Except Fault Session := do
  let records ← s.records.mapM (·.build table s)
  return ⟨s.name, s.date, s.participants, records⟩

/-- The corpus of a JSON value. -/
def ofJson (table : FeatureTable) (j : Json) : Except Fault Corpus :=
  match decode j with
  | none => .error .malformed
  | some sessions => sessions.mapM (·.build table)

end PhoneticSearch.Corpus
