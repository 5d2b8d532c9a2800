import PhoneticSearch.Span
import PhoneticSearch.Transcription.Element

/-!
# Transcriptions

A transcription is the list of its elements, and positions in it count elements.
`Transcription.subsection` is the part between two positions, and
`Transcription.byteSpan` is where that part stands in the rendered text.
-/

namespace PhoneticSearch

/-- A transcription is the list of its elements. -/
abbrev Transcription := List Element

namespace Transcription

/-- A transcription as it is written. -/
def render (t : Transcription) : Text := t.flatMap Element.render

@[simp] theorem render_nil : render [] = [] := rfl

@[simp] theorem render_cons (e : Element) (t : Transcription) :
    render (e :: t) = e.render ++ render t := rfl

@[simp] theorem render_append (s t : Transcription) :
    render (s ++ t) = render s ++ render t := by
  simp [render, List.flatMap_append]

/-- The phone at a position, if there is one. -/
def phoneAt? (t : Transcription) (i : Nat) : Option Phone := t[i]?.bind Element.phone?

theorem phoneAt?_eq_some {t : Transcription} {i : Nat} {p : Phone} :
    t.phoneAt? i = some p ↔ t[i]? = some (.phone p) := by
  rw [phoneAt?]
  cases t[i]? with
  | none => simp
  | some e => cases e <;> simp [Element.phone?]

/-- The positions of the phones of a transcription that starts at `offset`. -/
def phonePositionsFrom (offset : Nat) : Transcription → List Nat
  | [] => []
  | e :: rest =>
    if e.isPhone then offset :: phonePositionsFrom (offset + 1) rest
    else phonePositionsFrom (offset + 1) rest

/-- The positions of the phones. -/
def phonePositions (t : Transcription) : List Nat := phonePositionsFrom 0 t

/-- The phones, without the other elements. -/
def phones (t : Transcription) : List Phone := t.filterMap Element.phone?

/-- The elements of a span, as far as there are any. -/
def subsection (t : Transcription) (s : Span) : Transcription := (t.take s.stop).drop s.start

/-- The byte offset in the rendered text at which the element at a position
starts; a position past the end has the offset of the end. -/
def byteOffset (t : Transcription) (i : Nat) : Nat := Text.size (render (t.take i))

/-- The bytes of the rendered text that a span covers. -/
def byteSpan (t : Transcription) (s : Span) : Span :=
  ⟨byteOffset t s.start, byteOffset t (max s.stop s.start)⟩

/-- The words of a transcription whose first element has position `i`, where the
word at its front has begun at `start`. -/
def wordSpansFrom (start i : Nat) : Transcription → List Span
  | [] => if start < i then [⟨start, i⟩] else []
  | e :: rest =>
    if e.isWordBreak then
      (if start < i then [⟨start, i⟩] else []) ++ wordSpansFrom (i + 1) (i + 1) rest
    else wordSpansFrom start (i + 1) rest

/-- The spans of the words: the longest stretches without a word boundary or a
pause. -/
def wordSpans (t : Transcription) : List Span := wordSpansFrom 0 0 t

/-- A transcription without stress marks, syllable boundaries and pauses, and
without word boundaries unless they are kept. -/
def withoutPunctuation (t : Transcription) (keepWordBoundaries : Bool) : Transcription :=
  t.filter fun
    | .phone _ => true
    | .wordBoundary => keepWordBoundaries
    | _ => false

/-- A transcription whose phones have no diacritics. -/
def withoutDiacritics (t : Transcription) : Transcription := t.map Element.bare

end Transcription

end PhoneticSearch
