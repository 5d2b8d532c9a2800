import PhoneticSearch.Transcription.Basic

/-!
# Default syllabification

Where a transcription says nothing about syllables, the vowels of each word are
its nuclei, the consonants before the first vowel are onsets and those after the
last vowel are codas.  Between two vowels an explicit boundary divides the
consonants; without one the last consonant starts the next syllable, together
with the one before it where an obstruent is followed by a lateral, a rhotic or a
glide.  A word without vowels is left alone.
-/

namespace PhoneticSearch.Transcription

/-- Puts every phone of a part of a word into one constituent. -/
def assign (c : Constituent) (part : List Element) : List Element :=
  part.map (Element.withConstituent c)

/-- Whether a consonant and the one after it stand together in an onset. -/
def isRising : Element → Element → Bool
  | .phone first, .phone second =>
    first.features.contains .obstruent &&
      (second.features.contains .lateral || second.features.contains .rhotic || second.isGlide)
  | _, _ => false

/-- The number of consonants that a cluster gives to the syllable after it, read
from its end. -/
def onsetLength : (reversed : List Element) → Nat
  | second :: first :: _ => if isRising first second then 2 else 1
  | [_] => 1
  | [] => 0

/-- Divides what stands between two vowels into coda and onset. -/
def divide (gap : List Element) : List Element :=
  let cluster := gap.takeWhile (!·.isTransparent)
  let rest := gap.dropWhile (!·.isTransparent)
  if rest.isEmpty then
    let n := cluster.length - onsetLength cluster.reverse
    assign .coda (cluster.take n) ++ assign .onset (cluster.drop n)
  else assign .coda cluster ++ assign .onset rest

/-- Assigns the rest of a word after a vowel, where `gap` holds what stands
between that vowel and here, last first. -/
def assignAfterVowel (gap : List Element) : List Element → List Element
  | [] => assign .coda gap.reverse
  | e :: rest =>
    if e.isVowel then
      divide gap.reverse ++ e.withConstituent .nucleus :: assignAfterVowel [] rest
    else assignAfterVowel (e :: gap) rest

/-- Assigns a word, where `lead` holds what stands before here without a vowel,
last first. -/
def assignWordAfter (lead : List Element) : List Element → List Element
  | [] => lead.reverse
  | e :: rest =>
    if e.isVowel then
      assign .onset lead.reverse ++ e.withConstituent .nucleus :: assignAfterVowel [] rest
    else assignWordAfter (e :: lead) rest

/-- The default constituents of a word. -/
def assignWord (word : List Element) : List Element := assignWordAfter [] word

/-- Assigns word by word, where `word` holds the elements of the word that has
begun, last first. -/
def syllabifyFrom (word : List Element) : Transcription → Transcription
  | [] => assignWord word.reverse
  | e :: rest =>
    if e.isWordBreak then assignWord word.reverse ++ e :: syllabifyFrom [] rest
    else syllabifyFrom (e :: word) rest

/-- A transcription with the default constituents. -/
def syllabify (t : Transcription) : Transcription := syllabifyFrom [] t

end PhoneticSearch.Transcription
