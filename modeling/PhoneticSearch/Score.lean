import PhoneticSearch.Corpus.Record
import PhoneticSearch.Result.Basic

/-!
# Scores of correct phones

How many phones of a target are said as they should be.  The aligned score follows
the alignment: a target phone without an actual one is deleted, an actual phone
without a target is epenthesized.  The standard score takes the phones of both sides
as multisets.  Both look only at the phones with one of some features.
-/

namespace PhoneticSearch

/-- The text that phones are compared by. -/
def Phone.key (p : Phone) (ignoreDiacritics : Bool) : Text :=
  if ignoreDiacritics then p.base else p.text

namespace Transcription

/-- The phones with one of some features, each with its position. -/
def scored (t : Transcription) (features : FeatureSet) : List (Nat × Phone) :=
  t.phonePositions.filterMap fun i =>
    (t.phoneAt? i).bind fun p => if p.features.intersects features then some (i, p) else none

end Transcription

/-! ### The aligned score -/

/-- A score by the alignment.  Its numbers are words of 64 bits: those of a group count phones that
are there, but sums of scores and what is taken from them may pass the ends of the words. -/
structure AlignedScore where
  /-- The target phones that are aligned with an equal phone. -/
  correct : Nat := 0
  target : Nat := 0
  /-- The target phones that are aligned with no phone. -/
  deleted : Nat := 0
  actual : Nat := 0
  /-- The actual phones that are aligned with no phone. -/
  epenthesized : Nat := 0
deriving DecidableEq

namespace AlignedScore

/-- The target phones that are not deleted; below 0 words go on from the greatest one. -/
def attempted (s : AlignedScore) : Nat :=
  (s.target + (Span.wordCount - s.deleted)) % Span.wordCount

/-- Two scores taken together; behind the greatest word sums start again at 0. -/
def add (a b : AlignedScore) : AlignedScore :=
  let sum (m n : Nat) := (m + n) % Span.wordCount
  ⟨sum a.correct b.correct, sum a.target b.target, sum a.deleted b.deleted,
    sum a.actual b.actual, sum a.epenthesized b.epenthesized⟩

/-- Scores may be added in any order. -/
theorem add_right_comm (a b c : AlignedScore) : (a.add b).add c = (a.add c).add b := by
  simp only [add, Nat.mod_add_mod, Nat.add_right_comm]

/-- If no more phones are deleted than there are, the others are counted. -/
theorem attempted_eq {s : AlignedScore} (hdeleted : s.deleted ≤ s.target)
    (htarget : s.target < Span.wordCount) : s.attempted = s.target - s.deleted := by
  have hwords : s.target + (Span.wordCount - s.deleted) =
      s.target - s.deleted + Span.wordCount := by omega
  rw [attempted, hwords, Nat.add_mod_right, Nat.mod_eq_of_lt (by omega)]

/-- A score as it is written. -/
def render (s : AlignedScore) : String :=
  Nat.repr s.correct ++ "/" ++ Nat.repr s.attempted ++ ";" ++ Nat.repr s.deleted ++ ";" ++
    Nat.repr s.epenthesized

/-- The actual phone that the target phone at a position is aligned with. -/
def counterpart? (g : Group) (i : Nat) : Option Phone :=
  (g.alignment.partner? .target i).bind g.actual.phoneAt?

/-- The aligned score of a group. -/
def ofGroup (g : Group) (features : FeatureSet) (ignoreDiacritics : Bool) : AlignedScore :=
  let target := g.target.scored features
  let actual := g.actual.scored features
  { correct := target.countP fun (i, p) =>
      (counterpart? g i).any fun a => p.key ignoreDiacritics == a.key ignoreDiacritics
    target := target.length
    deleted := target.countP fun (i, _) => (counterpart? g i).isNone
    actual := actual.length
    epenthesized := actual.countP fun (i, _) => (g.alignment.partner? .actual i).isNone }

end AlignedScore

/-! ### The standard score -/

/-- A score that does not look at the alignment. -/
structure StandardScore where
  /-- The actual phones that have an equal target phone of their own. -/
  correct : Nat
  target : Nat
  actual : Nat
deriving DecidableEq

namespace StandardScore

/-- The target phones, with the actual phones that there are too many of. -/
def total (s : StandardScore) : Nat := s.target + (s.actual - s.target)

/-- A score as it is written. -/
def render (s : StandardScore) : String := Nat.repr s.correct ++ "/" ++ Nat.repr s.total

/-- The number of keys on the right that find an equal key of their own on the left. -/
def matched : (left right : List Text) → Nat
  | _, [] => 0
  | left, key :: right =>
    if left.contains key then matched (left.erase key) right + 1 else matched left right

/-- The standard score of a group. -/
def ofGroup (g : Group) (features : FeatureSet) (ignoreDiacritics : Bool) : StandardScore :=
  let keys (t : Transcription) := (t.scored features).map fun (_, p) => p.key ignoreDiacritics
  { correct := matched (keys g.target) (keys g.actual)
    target := (keys g.target).length
    actual := (keys g.actual).length }

end StandardScore

/-! ### Scores in results -/

/-- Which scores go into each result. -/
structure ScoreOptions where
  consonants : Bool := false
  vowels : Bool := false
  ignoreDiacritics : Bool := true
deriving DecidableEq

namespace ScoreOptions

/-- Whether there is a score. -/
def isEnabled (o : ScoreOptions) : Bool := o.consonants || o.vowels

/-- The classes of phones that are scored, each with the last letters of the names of
its scores. -/
def classes (o : ScoreOptions) : List (String × FeatureSet) :=
  (if o.consonants then [("PCC", .ofList [.consonant])] else []) ++
    (if o.vowels then [("PVC", .ofList [.vowel])] else [])

/-- The aligned scores of a group under their names. -/
def alignedMetadata (o : ScoreOptions) (g : Group) : Metadata :=
  o.classes.map fun (name, features) =>
    (('A' :: name.toList), (AlignedScore.ofGroup g features o.ignoreDiacritics).render.toList)

/-- The standard scores of a group under their names. -/
def standardMetadata (o : ScoreOptions) (g : Group) : Metadata :=
  o.classes.map fun (name, features) =>
    (name.toList, (StandardScore.ofGroup g features o.ignoreDiacritics).render.toList)

/-- Decodes a record with all its fields optional. -/
def decode : Decoder ScoreOptions := fun j => do
  let row ← Row.ofJson ["include_pcc", "include_pvc", "ignore_diacritics"] j
  return {
    consonants := ← row.withDefault "include_pcc" .bool false
    vowels := ← row.withDefault "include_pvc" .bool false
    ignoreDiacritics := ← row.withDefault "ignore_diacritics" .bool true }

end ScoreOptions

end PhoneticSearch
