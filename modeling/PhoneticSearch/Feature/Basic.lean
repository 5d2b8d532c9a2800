import PhoneticSearch.Text.Blank

/-!
# Phonetic features

The features that phones are described by, each with its name.  A feature is
read from its name in small or capital letters.
-/

namespace PhoneticSearch

/-- A phonetic feature. -/
inductive Feature where
  | consonant | vowel | glide | sonorant | obstruent | voiced | voiceless
  | labial | dental | coronal | alveolar | postalveolar | retroflex | palatal
  | dorsal | velar | uvular | pharyngeal | glottal
  | stop | fricative | affricate | nasal | lateral | rhotic | approximant | tap | trill
  | high | mid | low | front | central | back | round | tense
deriving DecidableEq, Repr

namespace Feature

/-- Every feature, in the order in which they are listed. -/
def all : List Feature :=
  [consonant, vowel, glide, sonorant, obstruent, voiced, voiceless,
   labial, dental, coronal, alveolar, postalveolar, retroflex, palatal,
   dorsal, velar, uvular, pharyngeal, glottal,
   stop, fricative, affricate, nasal, lateral, rhotic, approximant, tap, trill,
   high, mid, low, front, central, back, round, tense]

theorem mem_all (f : Feature) : f ∈ all := by cases f <;> decide

/-- The place of a feature in the list of all features. -/
def place (f : Feature) : Nat := f.ctorIdx

theorem place_lt (f : Feature) : f.place < 36 := by cases f <;> decide

/-- The name of a feature. -/
def name : Feature → String
  | consonant => "consonant"
  | vowel => "vowel"
  | glide => "glide"
  | sonorant => "sonorant"
  | obstruent => "obstruent"
  | voiced => "voiced"
  | voiceless => "voiceless"
  | labial => "labial"
  | dental => "dental"
  | coronal => "coronal"
  | alveolar => "alveolar"
  | postalveolar => "postalveolar"
  | retroflex => "retroflex"
  | palatal => "palatal"
  | dorsal => "dorsal"
  | velar => "velar"
  | uvular => "uvular"
  | pharyngeal => "pharyngeal"
  | glottal => "glottal"
  | stop => "stop"
  | fricative => "fricative"
  | affricate => "affricate"
  | nasal => "nasal"
  | lateral => "lateral"
  | rhotic => "rhotic"
  | approximant => "approximant"
  | tap => "tap"
  | trill => "trill"
  | high => "high"
  | mid => "mid"
  | low => "low"
  | front => "front"
  | central => "central"
  | back => "back"
  | round => "round"
  | tense => "tense"

/-- The feature with a name, with white space around it and in any case. -/
def read (t : Text) : Option Feature :=
  let wanted := (Text.trim t).map Text.asciiLower
  all.find? fun f => f.name.toList == wanted

/-- The message for a name that is no feature's. -/
def unknownMessage (t : Text) : String :=
  "unknown feature '" ++ (Text.trim t).asString ++ "'"

end Feature

end PhoneticSearch
