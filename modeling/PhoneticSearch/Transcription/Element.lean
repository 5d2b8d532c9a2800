import PhoneticSearch.Feature.Set

/-!
# Elements of a transcription

A transcription is a sequence of phones, stress marks, syllable boundaries, word
boundaries and pauses.  A phone is one or more base glyphs with their diacritics,
its features, and the constituent of the syllable that it belongs to.
-/

namespace PhoneticSearch

/-- A mark of stress. -/
inductive Stress where
  | primary
  | secondary
deriving DecidableEq

/-- The glyph of a stress mark. -/
def Stress.glyph : Stress → Char
  | primary => 'ˈ'
  | secondary => 'ˌ'

/-- A part of a syllable. -/
inductive Constituent where
  | leftAppendix
  | onset
  | nucleus
  | coda
  | rightAppendix
  /-- The head of an onset before an empty nucleus. -/
  | emptyOnset
  | ambisyllabic
  | unknown
deriving DecidableEq, Inhabited

namespace Constituent

/-- The letter of a constituent. -/
def letter : Constituent → Char
  | leftAppendix => 'L'
  | onset => 'O'
  | nucleus => 'N'
  | coda => 'C'
  | rightAppendix => 'R'
  | emptyOnset => 'E'
  | ambisyllabic => 'A'
  | unknown => 'U'

/-- The constituent of a letter in either case.  The members of a diphthong are
written with a letter of their own and are nuclei. -/
def ofLetter? (c : Char) : Option Constituent :=
  match Text.asciiUpper c with
  | 'L' => some leftAppendix
  | 'O' => some onset
  | 'N' => some nucleus
  | 'D' => some nucleus
  | 'C' => some coda
  | 'R' => some rightAppendix
  | 'E' => some emptyOnset
  | 'A' => some ambisyllabic
  | 'U' => some unknown
  | _ => none

/-- Whether a constituent stands at the start of a syllable. -/
def startsSyllable : Constituent → Bool
  | leftAppendix => true
  | onset => true
  | emptyOnset => true
  | _ => false

@[simp] theorem ofLetter?_letter (c : Constituent) : ofLetter? c.letter = some c := by
  cases c <;> rfl

end Constituent

/-- A pause. -/
inductive Pause where
  | short
  | medium
  | long
deriving DecidableEq

namespace Pause

/-- A pause as it is written. -/
def text : Pause → Text
  | short => ['(', '.', ')']
  | medium => ['(', '.', '.', ')']
  | long => ['(', '.', '.', '.', ')']

/-- The name of a pause. -/
def name : Pause → String
  | short => "Short"
  | medium => "Medium"
  | long => "Long"

end Pause

/-- A phone. -/
structure Phone where
  /-- The base glyphs with the tie bars between them. -/
  base : Text
  /-- The base glyphs with their diacritics. -/
  text : Text
  /-- The features of the base glyphs. -/
  features : FeatureSet
  /-- The part of the syllable that the phone belongs to. -/
  constituent : Constituent
deriving DecidableEq

namespace Phone

/-- The phone of a single glyph. -/
def ofGlyph (glyph : Char) (features : FeatureSet) : Phone :=
  ⟨[glyph], [glyph], features, .unknown⟩

/-- Whether a phone has a diacritic. -/
def hasDiacritics (p : Phone) : Bool := p.text != p.base

/-- Whether a phone is a glide. -/
def isGlide (p : Phone) : Bool := p.features.contains .glide

/-- Whether a phone is a vowel; glides are none. -/
def isVowel (p : Phone) : Bool := p.features.contains .vowel && !p.isGlide

/-- Whether a phone is a consonant; glides may be. -/
def isConsonant (p : Phone) : Bool := p.features.contains .consonant

/-- A phone in another constituent. -/
def withConstituent (p : Phone) (c : Constituent) : Phone := { p with constituent := c }

/-- A phone with one more diacritic. -/
def addDiacritic (p : Phone) (c : Char) : Phone := { p with text := p.text ++ [c] }

/-- The features of a stop tied to a fricative are those of an affricate too. -/
def tiedFeatures (features : FeatureSet) : Option FeatureSet → FeatureSet
  | none => features
  | some extra =>
    let both := features.union extra
    if both.contains .stop && both.contains .fricative then both.insert .affricate else both

/-- A phone with a second glyph tied to it; the glyph's features, where they are
known, are added. -/
def addTied (p : Phone) (bar glyph : Char) (extra : Option FeatureSet) : Phone :=
  { p with
    base := p.base ++ [bar, glyph]
    text := p.text ++ [bar, glyph]
    features := tiedFeatures p.features extra }

/-- A phone without its diacritics. -/
def bare (p : Phone) : Phone := { p with text := p.base }

end Phone

/-- An element of a transcription. -/
inductive Element where
  | phone (p : Phone)
  | stress (s : Stress)
  | syllableBoundary
  | wordBoundary
  | pause (l : Pause)
deriving DecidableEq

namespace Element

/-- The phone that an element is, if it is one. -/
def phone? : Element → Option Phone
  | phone p => some p
  | _ => none

/-- Whether an element is a phone. -/
def isPhone : Element → Bool
  | phone _ => true
  | _ => false

/-- Whether an element is passed over where sequences of phones are matched. -/
def isTransparent : Element → Bool
  | stress _ => true
  | syllableBoundary => true
  | _ => false

/-- Whether an element stands between two words. -/
def isWordBreak : Element → Bool
  | wordBoundary => true
  | pause _ => true
  | _ => false

/-- Whether an element is a vowel. -/
def isVowel : Element → Bool
  | phone p => p.isVowel
  | _ => false

/-- An element as it is written. -/
def render : Element → Text
  | phone p => p.text
  | stress s => [s.glyph]
  | syllableBoundary => ['.']
  | wordBoundary => [' ']
  | pause l => l.text

/-- A phone in another constituent; other elements stay as they are. -/
def withConstituent (c : Constituent) : Element → Element
  | phone p => phone (p.withConstituent c)
  | e => e

/-- A phone without its diacritics; other elements stay as they are. -/
def bare : Element → Element
  | phone p => phone p.bare
  | e => e

end Element

end PhoneticSearch
