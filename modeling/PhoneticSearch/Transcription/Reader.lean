import PhoneticSearch.Feature.Table
import PhoneticSearch.Transcription.Syllabification

/-!
# Reading transcriptions

A transcription is written in the International Phonetic Alphabet.  White space
stands between words, `ˈ` and `ˌ` mark stress, `.` is a syllable boundary, and
`(.)`, `(..)` and `(...)` are pauses.  Diacritics and tie bars belong to the phone
before them, and a phone may be followed by a colon and the letter of its
constituent; where no phone is, the default constituents are assigned.

The text is cut into tokens first (`tokens`), and the tokens are then placed one
after another (`place`).  The error of a text that cannot be read has the offset
of the first token that has no place.
-/

namespace PhoneticSearch

/-- The tie bars. -/
def isTieBar (c : Char) : Bool := c == '\u0361' || c == '\u035C'

/-- The diacritics, combining or spacing; tie bars are none. -/
def isDiacritic (c : Char) : Bool :=
  let n := c.toNat
  !isTieBar c &&
    ((0x300 ≤ n && n ≤ 0x36F) || (0x1DC0 ≤ n && n ≤ 0x1DFF) || (0x20D0 ≤ n && n ≤ 0x20FF) ||
      ['ʰ', 'ʷ', 'ʲ', 'ˠ', 'ˤ', 'ː', 'ˑ', 'ʼ', 'ⁿ', 'ˡ', 'ᵊ', 'ʱ', '˞', 'ˀ'].contains c)

namespace Transcription

/-- Why a token has no place in a transcription. -/
inductive Fault where
  | malformedPause
  | unexpectedClose
  | missingConstituent
  | constituentWithoutPhone
  | tieWithoutGlyph
  | tieWithoutPhone
  | diacriticWithoutPhone
deriving DecidableEq

/-- The message of a fault. -/
def Fault.message : Fault → String
  | malformedPause => "malformed pause"
  | unexpectedClose => "unexpected ')'"
  | missingConstituent => "expected syllable constituent after ':'"
  | constituentWithoutPhone => "constituent without phone"
  | tieWithoutGlyph => "tie bar without second glyph"
  | tieWithoutPhone => "tie bar without phone"
  | diacriticWithoutPhone => "diacritic without base phone"

/-- A text that cannot be read, with the offset and the fault of the first token
that has no place. -/
structure ReadError where
  input : Text
  offset : Nat
  fault : Fault
deriving DecidableEq

/-- The message of a text that cannot be read. -/
def ReadError.message (e : ReadError) : String :=
  "cannot parse transcription '" ++ e.input.asString ++ "' at index " ++ Nat.repr e.offset ++
    ": " ++ e.fault.message

/-- A token of a written transcription. -/
inductive Token where
  | blank
  | stress (s : Stress)
  | boundary
  | pause (l : Pause)
  | constituent (c : Constituent)
  | tied (bar glyph : Char)
  | diacritic (c : Char)
  | glyph (c : Char)
  /-- Characters that are no token. -/
  | faulty (f : Fault)
deriving DecidableEq

namespace Token

/-- Whether characters are no token. -/
def isFaulty : Token → Bool
  | faulty _ => true
  | _ => false

/-- Whether a token says which constituent a phone belongs to. -/
def isConstituent : Token → Bool
  | constituent _ => true
  | _ => false

/-- The number of characters that a token is written with. -/
def length : Token → Nat
  | pause l => l.text.length
  | constituent _ => 2
  | tied _ _ => 2
  | _ => 1

end Token

/-- The pause that a text starts with, if it starts with one. -/
def pauseAt? (t : Text) : Option Pause :=
  [Pause.short, .medium, .long].find? fun l => l.text.isPrefixOf t

/-- The token that a character and the text behind it start with. -/
def tokenAt (c : Char) (rest : Text) : Token :=
  if isBlank c then .blank
  else if c = 'ˈ' then .stress .primary
  else if c = 'ˌ' then .stress .secondary
  else if c = '.' then .boundary
  else if c = '(' then
    match pauseAt? (c :: rest) with
    | some l => .pause l
    | none => .faulty .malformedPause
  else if c = ')' then .faulty .unexpectedClose
  else if c = ':' then
    match rest.head?.bind Constituent.ofLetter? with
    | some k => .constituent k
    | none => .faulty .missingConstituent
  else if isTieBar c then
    match rest.head?.filter fun glyph => !isBlank glyph && !isDiacritic glyph with
    | some glyph => .tied c glyph
    | none => .faulty .tieWithoutGlyph
  else if isDiacritic c then .diacritic c
  else .glyph c

/-- The tokens of a text that starts at `offset`, each with its offset, where the first
`skip` characters belong to the token before; characters that are no token end the
list. -/
def tokensFrom : (offset skip : Nat) → Text → List (Nat × Token)
  | _, _, [] => []
  | offset, skip + 1, _ :: rest => tokensFrom (offset + 1) skip rest
  | offset, 0, c :: rest =>
    let token := tokenAt c rest
    (offset, token) ::
      if token.isFaulty then [] else tokensFrom (offset + 1) (token.length - 1) rest

/-- The tokens of a text with their offsets. -/
def tokens (t : Text) : List (Nat × Token) := tokensFrom 0 0 t

/-- The elements of a transcription with one more token, where the elements stand
last first. -/
def place (table : FeatureTable) (done : List Element) : Token → Except Fault (List Element)
  | .blank =>
    match done with
    | [] => .ok []
    | .wordBoundary :: _ => .ok done
    | _ => .ok (.wordBoundary :: done)
  | .stress s => .ok (.stress s :: done)
  | .boundary => .ok (.syllableBoundary :: done)
  | .pause l => .ok (.pause l :: done)
  | .constituent c =>
    match done with
    | .phone p :: before => .ok (.phone (p.withConstituent c) :: before)
    | _ => .error .constituentWithoutPhone
  | .tied bar glyph =>
    match done with
    | .phone p :: before => .ok (.phone (p.addTied bar glyph (table.find? glyph)) :: before)
    | _ => .error .tieWithoutPhone
  | .diacritic c =>
    match done with
    | .phone p :: before => .ok (.phone (p.addDiacritic c) :: before)
    | _ => .error .diacriticWithoutPhone
  | .glyph c => .ok (.phone (.ofGlyph c (table.features c)) :: done)
  | .faulty f => .error f

/-- The elements of a transcription with more tokens, last first; the error has
the offset of the first token that has no place. -/
def placeAll (table : FeatureTable) (done : List Element) :
    List (Nat × Token) → Except (Nat × Fault) (List Element)
  | [] => .ok done
  | (offset, token) :: rest =>
    match place table done token with
    | .ok done => placeAll table done rest
    | .error f => .error (offset, f)

/-- Elements without the word boundary at their end, where they stand last
first. -/
def dropBoundary : List Element → List Element
  | .wordBoundary :: before => before
  | done => done

/-- Reads a transcription with the features of a table. -/
def read (table : FeatureTable) (text : Text) : Except ReadError Transcription :=
  let tokens := tokens text
  match placeAll table [] tokens with
  | .ok done =>
    let elements := (dropBoundary done).reverse
    .ok (if tokens.any (·.2.isConstituent) then elements else syllabify elements)
  | .error (offset, fault) => .error ⟨text, offset, fault⟩

end Transcription

end PhoneticSearch
