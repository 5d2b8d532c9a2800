import PhoneticSearch.Json.Decode
import PhoneticSearch.Text.Blank

/-!
# Dialects

A pattern is written in one of five dialects.  A `PatternSpec` is a pattern as it
is asked for: its text, its dialect, and whether case matters and whether it is to
match whole values only.
-/

namespace PhoneticSearch

/-- The language that a pattern is written in. -/
inductive Dialect where
  /-- A text that stands for itself. -/
  | plain
  /-- A regular expression. -/
  | regex
  /-- A phonex expression. -/
  | phonex
  /-- A sequence of stresses. -/
  | stress
  /-- A sequence of consonants, vowels and glides. -/
  | soundClass
deriving DecidableEq

namespace Dialect

/-- All dialects, in order. -/
def all : List Dialect := [plain, regex, phonex, stress, soundClass]

/-- The name of a dialect. -/
def name : Dialect → String
  | plain => "plain"
  | regex => "regex"
  | phonex => "phonex"
  | stress => "stress"
  | soundClass => "cv"

/-- The name of a dialect where one is chosen from a list. -/
def title : Dialect → String
  | plain => "Plain text"
  | regex => "Regular expression"
  | phonex => "Phonex"
  | stress => "Stress pattern"
  | soundClass => "CV pattern"

/-- Whether case may matter in a dialect. -/
def supportsCase : Dialect → Bool
  | plain => true
  | regex => true
  | _ => false

/-- The dialect with a name, in either case and with white space around it. -/
def read (t : Text) : Option Dialect :=
  all.find? fun d => d.name.toList == (Text.trim t).map Text.asciiLower

/-- The message for a text that names no dialect. -/
def unknownMessage (t : Text) : String :=
  "unknown pattern dialect '" ++ Text.asString ((Text.trim t).map Text.asciiLower) ++ "'"

/-- A dialect given by its exact name. -/
def decode : Decoder Dialect := .choice (all.map fun d => (d.name, d))

end Dialect

/-- A pattern as it is asked for. -/
structure PatternSpec where
  expression : Text := []
  dialect : Dialect := .plain
  caseSensitive : Bool := false
  /-- Whether whole values are matched rather than parts of them. -/
  exact : Bool := false
deriving DecidableEq

namespace PatternSpec

/-- Decodes a record with all its fields optional. -/
def decode : Decoder PatternSpec := fun j => do
  let row ← Row.ofJson ["expression", "dialect", "case_sensitive", "exact"] j
  return {
    expression := ← row.withDefault "expression" .text []
    dialect := ← row.withDefault "dialect" Dialect.decode .plain
    caseSensitive := ← row.withDefault "case_sensitive" .bool false
    exact := ← row.withDefault "exact" .bool false }

end PatternSpec

end PhoneticSearch
