import PhoneticSearch.Pattern.Regex.Automaton
import PhoneticSearch.Pattern.Regex.Footprint
import PhoneticSearch.Pattern.Regex.Meaning
import PhoneticSearch.Pattern.Regex.Reader
import PhoneticSearch.Pattern.Value

/-!
# Searching with regular expressions

An expression is compiled to two automata: one that is searched for, and one that
whole texts are compared with.  The matches of a search are hits at byte offsets.
-/

namespace PhoneticSearch

/-- A regular expression, as the automaton that is searched for and the one that whole
texts are compared with. -/
structure Regex where
  search : Regex.Automaton
  whole : Regex.Automaton

namespace Regex

/-- The pattern of an expression that has been read. -/
def Expression.pattern (caseSensitive : Bool) (e : Expression) : Except Fault Pattern := do
  let (p, _) ← e.meaning { caseInsensitive := !caseSensitive }
  if p.fits then .ok p else .error .tooLarge

/-- An expression as part of one that matches whole texts only. -/
def anchored (expression : Text) : Text :=
  "\\A(?:".toList ++ expression ++ ")\\z".toList

/-- The pattern of an expression; a fault that is not one of its grammar has no
offset. -/
def compileText (caseSensitive : Bool) (expression : Text) : Except (Located Fault) Pattern := do
  let e ← read expression
  (e.pattern caseSensitive).mapError fun fault => ⟨none, fault⟩

/-- Compiles an expression.  Where only the anchored expression has a fault, the
place of the fault is not a place of the expression. -/
def compile (caseSensitive : Bool) (expression : Text) : Except (Located Fault) Regex := do
  let search ← compileText caseSensitive expression
  let whole ← (compileText caseSensitive (anchored expression)).mapError fun e =>
    ⟨none, e.fault⟩
  return ⟨.ofPattern search, .ofPattern whole⟩

/-- The hit that a span of characters is. -/
def hitOf (t : Text) (s : Span) : Hit :=
  let found := (t.drop s.start).take s.length
  let start := Text.size (t.take s.start)
  ⟨⟨start, start + Text.size found⟩, .text found⟩

/-- The hits of an expression in a text. -/
def find (r : Regex) (t : Text) : List Hit := (r.search.findAll t).map (hitOf t)

/-- Whether an expression matches a whole text. -/
def isWhole (r : Regex) (t : Text) : Bool := (r.whole.search t 0).isSome

end Regex

end PhoneticSearch
