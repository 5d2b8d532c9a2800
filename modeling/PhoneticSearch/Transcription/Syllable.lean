import PhoneticSearch.Transcription.Basic

/-!
# Syllables

`Transcription.syllables` splits a transcription into syllables.  A syllable ends
at a syllable boundary, a stress mark and a word break, and before a constituent
that starts a syllable, or a new nucleus, once its nucleus has been seen.  The
stress pattern and the syllabified text of a transcription are read off its
syllables.
-/

namespace PhoneticSearch

/-- The stress of a syllable. -/
inductive SyllableStress where
  | primary
  | secondary
  | unstressed
deriving DecidableEq

namespace SyllableStress

/-- The symbol of a stress in a stress pattern. -/
def symbol : SyllableStress → Char
  | primary => '1'
  | secondary => '2'
  | unstressed => 'U'

/-- The name of a stress. -/
def label : SyllableStress → String
  | primary => "Primary"
  | secondary => "Secondary"
  | unstressed => "Unstressed"

/-- The stress that a mark gives to the syllable after it. -/
def ofMark : Stress → SyllableStress
  | .primary => primary
  | .secondary => secondary

end SyllableStress

/-- A syllable of a transcription. -/
structure Syllable where
  /-- The elements of the syllable, with the stress mark before them if any. -/
  span : Span
  /-- The stress of the syllable. -/
  stress : SyllableStress
  /-- The number of the word that the syllable belongs to. -/
  word : Nat
deriving DecidableEq

namespace Transcription

/-- A syllable that has begun. -/
structure OpenSyllable where
  /-- The position of its first element. -/
  start : Nat
  /-- The position after its last phone. -/
  stop : Nat
  stress : SyllableStress
  /-- Whether it has a phone. -/
  hasPhone : Bool
  /-- Whether it has a nucleus. -/
  hasNucleus : Bool
  /-- Whether its last phone is a nucleus. -/
  afterNucleus : Bool

namespace OpenSyllable

/-- A syllable that begins at a position. -/
def new (start : Nat) (stress : SyllableStress) : OpenSyllable :=
  ⟨start, start, stress, false, false, false⟩

/-- The syllable with the phone at a position added to it. -/
def add (s : OpenSyllable) (i : Nat) (c : Constituent) : OpenSyllable :=
  { s with
    stop := i + 1
    hasPhone := true
    afterNucleus := c == .nucleus
    hasNucleus := s.hasNucleus || c == .nucleus }

/-- Whether the syllable ends before a phone of a constituent. -/
def endsBefore (s : OpenSyllable) (c : Constituent) : Bool :=
  s.hasNucleus && (c.startsSyllable || (c == .nucleus && !s.afterNucleus))

end OpenSyllable

/-- The syllable that ends here, if one has begun and has a phone. -/
def closeSyllable (word : Nat) : Option OpenSyllable → List Syllable
  | some s => if s.hasPhone then [⟨⟨s.start, s.stop⟩, s.stress, word⟩] else []
  | none => []

/-- The syllables of a transcription whose first element has position `i`, where
`current` is the syllable that has begun, `word` the number of the word, and
`inWord` tells whether an element of the word has been seen. -/
def syllablesFrom (i word : Nat) (inWord : Bool) (current : Option OpenSyllable) :
    Transcription → List Syllable
  | [] => closeSyllable word current
  | .wordBoundary :: rest =>
    closeSyllable word current ++
      syllablesFrom (i + 1) (if inWord then word + 1 else word) false none rest
  | .pause _ :: rest =>
    closeSyllable word current ++
      syllablesFrom (i + 1) (if inWord then word + 1 else word) false none rest
  | .syllableBoundary :: rest =>
    closeSyllable word current ++ syllablesFrom (i + 1) word true none rest
  | .stress mark :: rest =>
    closeSyllable word current ++
      syllablesFrom (i + 1) word true (some (.new i (.ofMark mark))) rest
  | .phone p :: rest =>
    match current with
    | some s =>
      if s.endsBefore p.constituent then
        closeSyllable word current ++
          syllablesFrom (i + 1) word true
            (some ((OpenSyllable.new i .unstressed).add i p.constituent)) rest
      else syllablesFrom (i + 1) word true (some (s.add i p.constituent)) rest
    | none =>
      syllablesFrom (i + 1) word true
        (some ((OpenSyllable.new i .unstressed).add i p.constituent)) rest

/-- The syllables of a transcription, in order. -/
def syllables (t : Transcription) : List Syllable := syllablesFrom 0 0 false none t

/-! ### The stress pattern -/

/-- The stress symbols of the syllables after one of word `word`: a hyphen stands
between syllables of a word and a space between words. -/
def stressPatternAfter (word : Nat) : List Syllable → Text
  | [] => []
  | s :: rest =>
    (if s.word = word then '-' else ' ') :: s.stress.symbol :: stressPatternAfter s.word rest

/-- The stress symbols of the syllables. -/
def stressPattern (t : Transcription) : Text :=
  match t.syllables with
  | [] => []
  | s :: rest => s.stress.symbol :: stressPatternAfter s.word rest

/-! ### The syllabified text -/

/-- Whether the phone at a position is a nucleus. -/
def isNucleusAt (t : Transcription) (i : Nat) : Bool :=
  match t.phoneAt? i with
  | some p => p.constituent == .nucleus
  | none => false

/-- Whether two neighbouring positions are nuclei of one of the syllables. -/
def isDiphthongAt (t : Transcription) (syllables : List Syllable) (i : Nat) : Bool :=
  t.isNucleusAt i && t.isNucleusAt (i + 1) &&
    syllables.any fun s => s.span.contains i && s.span.contains (i + 1)

/-- The letter written after the phone at a position: the members of a diphthong
are told from other nuclei. -/
def letterAt (t : Transcription) (syllables : List Syllable) (i : Nat) (p : Phone) : Char :=
  if t.isDiphthongAt syllables i || (0 < i && t.isDiphthongAt syllables (i - 1)) then 'D'
  else p.constituent.letter

/-- A transcription with the constituent of each phone written after it. -/
def syllabified (t : Transcription) : Text :=
  let syllables := t.syllables
  t.zipIdx.flatMap fun
    | (.phone p, i) => p.text ++ [':', t.letterAt syllables i p]
    | (e, _) => e.render

end Transcription

end PhoneticSearch
