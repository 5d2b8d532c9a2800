import PhoneticSearch.Pattern.Plain
import PhoneticSearch.Pattern.Regex.Search

/-!
# Compiling plain patterns

Where case does not matter, a plain pattern is written as a regular expression in which
every character stands for itself, and what the engine of regular expressions refuses is
no pattern either.
-/

namespace PhoneticSearch.Plain

/-- The characters that mean something else than themselves in a regular expression. -/
def metaChars : List Char :=
  ['\\', '.', '+', '*', '?', '(', ')', '|', '[', ']', '\x7b', '\x7d', '^', '$', '#', '&', '-', '~']

/-- The regular expression of a text in which every character stands for itself. -/
def escaped (needle : Text) : Text :=
  needle.flatMap fun c => if c ∈ metaChars then ['\\', c] else [c]

/-- Compiles a plain pattern. -/
def compile (needle : Text) (caseSensitive : Bool) : Except Regex.Fault Plain :=
  if caseSensitive then .ok ⟨needle, true⟩
  else match Regex.compileText false (escaped needle) with
    | .ok _ => .ok ⟨needle, false⟩
    | .error e => .error e.fault

end PhoneticSearch.Plain
