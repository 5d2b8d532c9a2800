import PhoneticSearch.Pattern.Phonex.Reader

/-!
# Symbol maps

A symbol map gives symbols to phones, as in `G=\g; C=\c; V=\v`: a phone has the
symbol of the first entry whose matcher accepts it.  `SymbolMap.render` writes a
transcription with symbols in place of phones, and `SymbolMap.soundClasses` is the
map of glides, consonants and vowels.
-/

namespace PhoneticSearch

/-- Symbols for phones, the first matcher that accepts a phone counts. -/
structure SymbolMap where
  entries : List (Phonex.PhoneMatcher × Text)

namespace SymbolMap

/-- Why a text is no symbol map. -/
inductive Fault where
  /-- An entry is not a symbol and a matcher with an equals sign between them. -/
  | entry (text : Text)
  /-- The matcher of a symbol cannot be read. -/
  | matcher (symbol : Text) (fault : Located Phonex.Fault)
  /-- There is no entry. -/
  | empty
deriving DecidableEq

/-- The message of a fault. -/
def Fault.message : Fault → String
  | entry text => "invalid symbol map entry '" ++ text.asString ++ "'"
  | matcher symbol fault =>
    "symbol '" ++ symbol.asString ++ "': " ++ fault.message Phonex.Fault.message
  | empty => "empty symbol map"

/-- One entry of a map, which is written without white space around it. -/
def readEntry (text : Text) : Except Fault (Phonex.PhoneMatcher × Text) :=
  match Text.cutAt '=' text with
  | none => .error (.entry text)
  | some (symbol, expression) =>
    let symbol := Text.trim symbol
    let expression := Text.trim expression
    if symbol.isEmpty || expression.isEmpty then .error (.entry text)
    else match Phonex.readOne expression with
      | .ok m => .ok (m, symbol)
      | .error fault => .error (.matcher symbol fault)

/-- Reads a map whose entries have semicolons between them. -/
def read (t : Text) : Except Fault SymbolMap := do
  let entries ← (Text.items ';' t).mapM readEntry
  if entries.isEmpty then .error .empty else .ok ⟨entries⟩

/-- The map of glides, consonants and vowels. -/
def soundClasses : SymbolMap := ⟨[(.glide, ['G']), (.consonant, ['C']), (.vowel, ['V'])]⟩

/-- The symbol of a phone; a phone that no matcher accepts is its own. -/
def symbolOf (map : SymbolMap) (p : Phone) : Text :=
  match map.entries.find? (·.1.accepts p) with
  | some (_, symbol) => symbol
  | none => p.text

/-- An element with the symbol of a phone in its place. -/
def renderElement (map : SymbolMap) : Element → Text
  | .phone p => map.symbolOf p
  | e => e.render

/-- A transcription with symbols in place of phones. -/
def render (map : SymbolMap) (t : Transcription) : Text := t.flatMap map.renderElement

end SymbolMap

end PhoneticSearch
