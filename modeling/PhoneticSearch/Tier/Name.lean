import PhoneticSearch.Alignment
import PhoneticSearch.Json.Decode
import PhoneticSearch.Text.Blank

/-!
# Tiers

A record is annotated on tiers: the orthography, the two transcriptions, the notes,
and tiers that its users name.
-/

namespace PhoneticSearch

/-- The name of a tier. -/
inductive TierName where
  | orthography
  /-- One of the two transcriptions. -/
  | ipa (side : Side)
  | notes
  /-- A tier that users name. -/
  | user (name : Text)
deriving DecidableEq

namespace TierName

/-- A name as it is written. -/
def text : TierName → Text
  | orthography => "Orthography".toList
  | ipa .target => "IPA Target".toList
  | ipa .actual => "IPA Actual".toList
  | notes => "Notes".toList
  | user name => name

/-- The tiers that have names of their own. -/
def named : List TierName := [orthography, ipa .target, ipa .actual, notes]

/-- The tier with a name; white space around the name does not count. -/
def read (t : Text) : TierName :=
  let name := Text.trim t
  (named.find? (·.text == name)).getD (user name)

/-- The transcription that a tier is, if it is one. -/
def side? : TierName → Option Side
  | ipa side => some side
  | _ => none

/-- The tier of the other transcription. -/
def counterpart? (tier : TierName) : Option TierName := tier.side?.map (ipa ·.other)

/-- A tier given by its name. -/
def decode : Decoder TierName := fun j => (Decoder.text j).map read

end TierName

end PhoneticSearch
