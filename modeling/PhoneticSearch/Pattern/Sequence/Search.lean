import PhoneticSearch.Pattern.Sequence.Spelling
import PhoneticSearch.Pattern.Value

/-!
# Searching with sequence patterns

At each position of the symbols the first item of a pattern takes as many symbols as
the items behind it leave it, then the second one does, and so on.  A search takes
the first match that is not empty and goes on behind it.
-/

namespace PhoneticSearch.Sequence

/-- The numbers of symbols at the front of `w` that an item may take, greatest
first. -/
def Item.counts (item : Item) (w : Text) : List Nat :=
  let run := (w.takeWhile item.symbols.contains).length
  let most := item.greatest.elim run (min run)
  ((List.range (most + 1)).filter (item.least ≤ ·)).reverse

/-- The suffixes of a text, longest first. -/
def suffixes : Text → List Text
  | [] => [[]]
  | c :: rest => (c :: rest) :: suffixes rest

/-- For each position of `w`, and for its end, how many symbols the preferred match
of the items from there takes, where a match may stop in front of `rest` if
`stops rest`. -/
def lengths (stops : Text → Bool) (w : Text) : List Item → List (Option Nat)
  | [] => (suffixes w).map fun rest => if stops rest then some 0 else none
  | item :: items =>
    let later := lengths stops w items
    (suffixes w).mapIdx fun i rest =>
      (item.counts rest).findSome? fun count => (later.getD (i + count) none).map (count + ·)

/-- The spans of symbols that a search takes, where `lengths` holds the length of the
match from each position on and the first `skip` positions belong to the span in
front. -/
def scan : (position skip : Nat) → (lengths : List (Option Nat)) → List Span
  | _, _, [] => []
  | position, skip + 1, _ :: rest => scan (position + 1) skip rest
  | position, 0, some (count + 1) :: rest =>
    ⟨position, position + count + 1⟩ :: scan (position + 1) count rest
  | position, 0, _ :: rest => scan (position + 1) 0 rest

/-- The elements from the first to the last of some symbols. -/
def elementSpan (symbols : List Symbol) (s : Span) : Span :=
  match symbols[s.start]?, symbols[s.stop - 1]? with
  | some first, some last => ⟨first.span.start, last.span.stop⟩
  | _, _ => ⟨0, 0⟩

/-- The hits of a pattern in a transcription. -/
def find (kind : Kind) (items : List Item) (t : Transcription) : List Hit :=
  let found := scan 0 0 (lengths (fun _ => true) (spelling kind t) items)
  found.map fun s =>
    let span := elementSpan (symbols kind t) s
    ⟨span, .transcription (t.subsection span)⟩

/-- Whether a pattern matches a whole transcription. -/
def isWhole (kind : Kind) (items : List Item) (t : Transcription) : Bool :=
  ((lengths List.isEmpty (spelling kind t) items).head?.bind id).isSome

end PhoneticSearch.Sequence
