import PhoneticSearch.Pattern.Regex.Search
import PhoneticSearch.Pattern.Sequence.Search

/-!
# Compiling sequence patterns

A sequence pattern is translated to a regular expression over the letters of symbols,
character by character, and what the engine of regular expressions refuses is no
pattern either.
-/

namespace PhoneticSearch.Sequence

/-- The regular expression of one of some letters. -/
def classText : List Char → Text
  | [c] => [c]
  | letters => '[' :: letters ++ [']']

/-- The regular expression that a pattern is translated to; a quantifier stands for
itself. -/
def translation (kind : Kind) (expression : Text) : Text :=
  expression.flatMap fun c => (kind.symbols? c).elim [c] classText

/-- Compiles a sequence pattern. -/
def compile (kind : Kind) (expression : Text) : Except (Located Fault) (List Item) := do
  let items ← read kind expression
  match Regex.compile true (translation kind expression) with
  | .ok _ => return items
  | .error e => .error ⟨none, .refused e.fault⟩

end PhoneticSearch.Sequence
