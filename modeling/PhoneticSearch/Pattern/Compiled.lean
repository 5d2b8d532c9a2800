import PhoneticSearch.Pattern.Dialect
import PhoneticSearch.Pattern.Phonex.Search
import PhoneticSearch.Pattern.Plain.Compile
import PhoneticSearch.Pattern.Sequence.Compile

/-!
# Compiled patterns

A pattern of any dialect, ready to be applied to values.  Plain patterns and
regular expressions are applied to the text of a value, the other dialects to
transcriptions only.
-/

namespace PhoneticSearch

/-- A pattern that has been read. -/
inductive CompiledPattern where
  | plain (p : Plain)
  | regex (r : Regex)
  | phonex (root : Phonex.Node)
  | sequence (kind : Sequence.Kind) (items : List Sequence.Item)

/-- Why a pattern cannot be compiled. -/
inductive PatternFault where
  | empty
  | plain (fault : Regex.Fault)
  | regex (fault : Regex.Fault)
  | phonex (fault : Phonex.Fault)
  | sequence (fault : Sequence.Fault)
deriving DecidableEq

/-- The message of a fault; those of regular expressions are not told apart. -/
def PatternFault.message : PatternFault → String
  | empty => "empty pattern"
  | plain fault => fault.message
  | regex _ => "invalid regular expression"
  | phonex fault => fault.message
  | sequence fault => fault.message

namespace CompiledPattern

/-- Compiles a pattern. -/
def compile (spec : PatternSpec) : Except (Located PatternFault) CompiledPattern :=
  let expression := spec.expression
  if expression.isEmpty then .error ⟨none, .empty⟩
  else match spec.dialect with
    | .plain =>
      ((Plain.compile expression spec.caseSensitive).mapError (⟨none, .plain ·⟩)).map plain
    | .regex =>
      ((Regex.compile spec.caseSensitive expression).mapError (·.map .regex)).map regex
    | .phonex => ((Phonex.read expression).mapError (·.map .phonex)).map phonex
    | .stress =>
      ((Sequence.compile .stress expression).mapError (·.map .sequence)).map (sequence .stress)
    | .soundClass =>
      ((Sequence.compile .soundClass expression).mapError (·.map .sequence)).map
        (sequence .soundClass)

/-- Whether a pattern matches a whole value. -/
def isWhole (p : CompiledPattern) (v : Value) : Bool :=
  match p with
  | plain p => p.isWhole v.render
  | regex r => r.isWhole v.render
  | phonex root => v.transcription?.any (Phonex.isWhole root)
  | sequence kind items => v.transcription?.any (Sequence.isWhole kind items)

/-- The hits of a pattern in a value, in order. -/
def find (p : CompiledPattern) (v : Value) : List Hit :=
  match p with
  | plain p => p.find v.render
  | regex r => r.find v.render
  | phonex root => v.transcription?.elim [] (Phonex.find root)
  | sequence kind items => v.transcription?.elim [] (Sequence.find kind items)

end CompiledPattern

end PhoneticSearch
