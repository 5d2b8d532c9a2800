import PhoneticSearch.Pattern.Sequence.Syntax
import PhoneticSearch.Transcription.Syllable

/-!
# The spelling of a transcription

What a sequence pattern is matched against: a transcription as a row of symbols,
each a letter with the span of elements it stands for.  By stress the symbols are
the syllables and the gaps between words; by sound class they are the phones and the
word breaks.
-/

namespace PhoneticSearch.Sequence

/-- A letter, and the elements that it stands for. -/
structure Symbol where
  letter : Char
  span : Span
deriving DecidableEq

/-- The letter of a phone: a glide, a vowel, a consonant, or none of these. -/
def soundClassOf (p : Phone) : Char :=
  if p.isGlide then 'G' else if p.isVowel then 'V' else if p.isConsonant then 'C' else '?'

/-- The sound class of the element at a position, or the space of a word break. -/
def soundClassSymbol (e : Element) (i : Nat) : Option Symbol :=
  match e with
  | .phone p => some ⟨soundClassOf p, ⟨i, i + 1⟩⟩
  | e => if e.isWordBreak then some ⟨' ', ⟨i, i + 1⟩⟩ else none

/-- The symbols of syllables that follow `previous`, with a space where a word ends. -/
def stressSymbolsAfter (previous : Option Syllable) : List Syllable → List Symbol
  | [] => []
  | s :: rest =>
    let gap := match previous with
      | some p => if p.word = s.word then [] else [⟨' ', ⟨p.span.stop, s.span.start⟩⟩]
      | none => []
    gap ++ ⟨s.stress.symbol, s.span⟩ :: stressSymbolsAfter (some s) rest

/-- The symbols of a transcription. -/
def symbols (kind : Kind) (t : Transcription) : List Symbol :=
  match kind with
  | .stress => stressSymbolsAfter none (Transcription.syllables t)
  | .soundClass => t.zipIdx.filterMap fun (e, i) => soundClassSymbol e i

/-- The letters of the symbols of a transcription. -/
def spelling (kind : Kind) (t : Transcription) : Text := (symbols kind t).map (·.letter)

end PhoneticSearch.Sequence
