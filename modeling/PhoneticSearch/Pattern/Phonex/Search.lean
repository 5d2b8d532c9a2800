import PhoneticSearch.Pattern.Phonex.Reader
import PhoneticSearch.Pattern.Phonex.Table
import PhoneticSearch.Pattern.Value

/-!
# Searching with phonex expressions

Stress marks and syllable boundaries are passed over, and the other elements are
the visible ones.  A search goes from left to right: at each position the
preferred match that is not empty is taken, and the search goes on behind it.
-/

namespace PhoneticSearch.Phonex

/-- The elements of a transcription that are not passed over, with their
positions. -/
def visible (t : Transcription) : List (Element × Nat) :=
  t.zipIdx.filter (!·.1.isTransparent)

/-- The matches, as spans of positions below `size`, that a search from `start`
takes, when it has `left` steps left; `endsAt` lists where the matches from a
position end. -/
def scan (endsAt : Nat → List Nat) (size : Nat) : (left start : Nat) → List Span
  | 0, _ => []
  | left + 1, start =>
    if start < size then
      match (endsAt start).find? (start < ·) with
      | some stop => ⟨start, stop⟩ :: scan endsAt size left stop
      | none => scan endsAt size left (start + 1)
    else []

/-- The spans that `scan` takes, with one table for all positions. -/
def scanTabled (endsAt : Nat → StateM Table (List Nat)) (size : Nat) :
    (left start : Nat) → StateM Table (List Span)
  | 0, _ => pure []
  | left + 1, start =>
    if start < size then do
      match (← endsAt start).find? (start < ·) with
      | some stop => return ⟨start, stop⟩ :: (← scanTabled endsAt size left stop)
      | none => scanTabled endsAt size left (start + 1)
    else pure []

/-- The spans of elements that a search takes. -/
def spansTabled (root : Node) (elements : List Element) : StateM Table (List Span) :=
  scanTabled (root.endsTabled elements []) elements.length elements.length 0

/-- The hit that a span of visible elements is. -/
def hitOf (t : Transcription) (positions : List Nat) (s : Span) : Hit :=
  let span : Span := ⟨positions.getD s.start 0, positions.getD (s.stop - 1) 0 + 1⟩
  ⟨span, .transcription (t.subsection span)⟩

/-- The hits of an expression in a transcription. -/
def find (root : Node) (t : Transcription) : List Hit :=
  let visible := visible t
  let spans := ((spansTabled root (visible.map (·.1))).run ∅).1
  spans.map (hitOf t (visible.map (·.2)))

/-- Whether an expression matches a whole transcription. -/
def isWhole (root : Node) (t : Transcription) : Bool :=
  let elements := (visible t).map (·.1)
  ((root.endsTabled elements [] 0).run ∅).1.contains elements.length

end PhoneticSearch.Phonex
