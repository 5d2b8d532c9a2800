import PhoneticSearch.Transcription.Basic

/-!
# Searched values and hits

A pattern is applied to a text, a phone or a transcription.  A hit is a span of
the value with what was found there: a span of a text counts bytes, a span of a
transcription counts elements.
-/

namespace PhoneticSearch

/-- A value that a pattern is applied to. -/
inductive Value where
  | text (t : Text)
  | phone (p : Phone)
  | transcription (t : Transcription)
deriving DecidableEq

namespace Value

/-- A value as it is written. -/
def render : Value → Text
  | text t => t
  | phone p => p.text
  | transcription t => t.render

/-- The transcription that a value is, if it is one. -/
def transcription? : Value → Option Transcription
  | transcription t => some t
  | _ => none

/-- Whether spans of a value count elements. -/
def countsElements : Value → Bool
  | text _ => false
  | _ => true

/-- The length of a value in the positions that its spans count. -/
def extent : Value → Nat
  | text t => Text.size t
  | phone _ => 1
  | transcription t => t.length

end Value

/-- What a pattern found in a value. -/
structure Hit where
  /-- Where it was found. -/
  span : Span
  /-- What was found. -/
  value : Value
deriving DecidableEq

end PhoneticSearch
