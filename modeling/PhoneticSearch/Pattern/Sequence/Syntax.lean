import PhoneticSearch.Pattern.Located
import PhoneticSearch.Pattern.Quantifier
import PhoneticSearch.Pattern.Regex.Syntax
import PhoneticSearch.Text.Basic

/-!
# Sequence patterns

A sequence pattern spells the syllables of a transcription by their stress, or its
phones by whether they are consonants, vowels or glides.  It is a row of symbols,
each followed by at most one of `?`, `*` and `+`; a space stands between words.
-/

namespace PhoneticSearch.Sequence

/-- What the symbols of a sequence pattern stand for. -/
inductive Kind where
  /-- Syllables, by their stress. -/
  | stress
  /-- Phones, by their sound class. -/
  | soundClass
deriving DecidableEq

namespace Kind

/-- The name of a kind in messages. -/
def name : Kind → String
  | stress => "stress"
  | soundClass => "CV"

/-- The symbols that a character of a pattern stands for, if it is one of the
alphabet.  Letters may be written in either case. -/
def symbols? (kind : Kind) (c : Char) : Option (List Char) :=
  match kind, Text.asciiUpper c with
  | _, ' ' => some [' ']
  | stress, '1' => some ['1']
  | stress, '2' => some ['2']
  | stress, 'A' => some ['1', '2']
  | stress, 'B' => some ['1', '2', 'U']
  | stress, 'U' => some ['U']
  | soundClass, 'C' => some ['C']
  | soundClass, 'V' => some ['V']
  | soundClass, 'G' => some ['G']
  | _, _ => none

end Kind

/-- A symbol of a pattern with the quantifier behind it. -/
structure Item where
  /-- The symbols that are accepted. -/
  symbols : List Char
  /-- How often it may follow itself; once if there is none. -/
  quantifier : Option Quantifier
deriving DecidableEq

namespace Item

/-- The least number of repetitions. -/
def least (item : Item) : Nat := item.quantifier.elim 1 Quantifier.least

/-- The greatest number of repetitions, if there is one. -/
def greatest (item : Item) : Option Nat := item.quantifier.elim (some 1) Quantifier.greatest

end Item

/-- Why a text is no sequence pattern, or cannot be used as one. -/
inductive Fault where
  | empty (kind : Kind)
  | nothingToRepeat (c : Char)
  | invalidSymbol (kind : Kind) (c : Char)
  /-- The regular expression that the pattern is translated to is refused. -/
  | refused (fault : Regex.Fault)
deriving DecidableEq

/-- The message of a fault. -/
def Fault.message : Fault → String
  | empty kind => "empty " ++ kind.name ++ " pattern"
  | nothingToRepeat c => "quantifier '" ++ c.toString ++ "' without symbol"
  | invalidSymbol kind c => "invalid " ++ kind.name ++ " pattern symbol '" ++ c.toString ++ "'"
  | refused fault => fault.message

/-- The items of a pattern from `offset` on, where `pending` holds the symbols of
the item in front, as long as a quantifier may follow it. -/
def readFrom (kind : Kind) (offset : Nat) (pending : Option (List Char)) :
    Text → Except (Located Fault) (List Item)
  | [] => .ok (pending.toList.map (⟨·, none⟩))
  | c :: rest =>
    match kind.symbols? c with
    | some symbols => do
      let items ← readFrom kind (offset + 1) (some symbols) rest
      return pending.toList.map (⟨·, none⟩) ++ items
    | none =>
      match Quantifier.ofChar? c with
      | none => .error (.found offset (.invalidSymbol kind c))
      | some q =>
        match pending with
        | none => .error (.found offset (.nothingToRepeat c))
        | some symbols => do
          let items ← readFrom kind (offset + 1) none rest
          return ⟨symbols, some q⟩ :: items

/-- Reads a sequence pattern. -/
def read (kind : Kind) (expression : Text) : Except (Located Fault) (List Item) :=
  if expression.isEmpty then .error ⟨none, .empty kind⟩ else readFrom kind 0 none expression

end PhoneticSearch.Sequence
