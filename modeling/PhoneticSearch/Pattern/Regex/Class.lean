import PhoneticSearch.Pattern.Regex.Syntax
import PhoneticSearch.Text.Unicode.Age
import PhoneticSearch.Text.Unicode.Break
import PhoneticSearch.Text.Unicode.Category
import PhoneticSearch.Text.Unicode.Property
import PhoneticSearch.Text.Unicode.Script

/-!
# Classes with names

The sets of characters that expressions name: classes of ASCII characters, classes
of one letter behind a backslash, and properties of characters with their values.
-/

namespace PhoneticSearch.Regex

/-- The members of a class of ASCII characters. -/
def asciiSet : String → CharSet
  | "alnum" => ⟨[(0x30, 0x39), (0x41, 0x5A), (0x61, 0x7A)]⟩
  | "alpha" => ⟨[(0x41, 0x5A), (0x61, 0x7A)]⟩
  | "ascii" => ⟨[(0, 0x7F)]⟩
  | "blank" => ⟨[(0x9, 0x9), (0x20, 0x20)]⟩
  | "cntrl" => ⟨[(0, 0x1F), (0x7F, 0x7F)]⟩
  | "digit" => ⟨[(0x30, 0x39)]⟩
  | "graph" => ⟨[(0x21, 0x7E)]⟩
  | "lower" => ⟨[(0x61, 0x7A)]⟩
  | "print" => ⟨[(0x20, 0x7E)]⟩
  | "punct" => ⟨[(0x21, 0x2F), (0x3A, 0x40), (0x5B, 0x60), (0x7B, 0x7E)]⟩
  | "space" => ⟨[(0x9, 0xD), (0x20, 0x20)]⟩
  | "upper" => ⟨[(0x41, 0x5A)]⟩
  | "word" => ⟨[(0x30, 0x39), (0x41, 0x5A), (0x5F, 0x5F), (0x61, 0x7A)]⟩
  | "xdigit" => ⟨[(0x30, 0x39), (0x41, 0x46), (0x61, 0x66)]⟩
  | _ => .empty

/-- The decimal digits of all scripts. -/
def digits : CharSet := (Unicode.category? "nd").getD .empty

/-- White space of all kinds. -/
def spaces : CharSet := (Unicode.property? "space").getD .empty

/-- Letters, marks, decimal digits, connecting punctuation and joiners. -/
def wordCharacters : CharSet :=
  ["m", "nd", "pc"].foldl (fun s name => s.union ((Unicode.category? name).getD .empty))
    (.ofTable (Unicode.alphabetic.table ++ Unicode.joinControl.table))

/-- Whether a character belongs to a word. -/
def isWordChar (unicode : Bool) (c : Char) : Bool :=
  (if unicode then wordCharacters else asciiSet "word").contains c

/-- The members of a class that an escape of one letter stands for. -/
def EscapeClass.members (unicode : Bool) : EscapeClass → CharSet
  | digit => if unicode then digits else asciiSet "digit"
  | space => if unicode then spaces else asciiSet "space"
  | word => if unicode then wordCharacters else asciiSet "word"

/-- The set that the name of a category stands for; all, all ASCII and all assigned
characters count as categories. -/
def categorySet? (name : String) : Option CharSet :=
  match name with
  | "any" => some .all
  | "ascii" => some (asciiSet "ascii")
  | "assigned" => (Unicode.category? "cn").map (·.complement)
  | name => Unicode.category? name

/-- The characters with a value of a property. -/
def valueSet? (property value : String) : Option CharSet :=
  if ["gc", "generalcategory"].contains property then categorySet? value
  else if ["sc", "script"].contains property then Unicode.script? value
  else if ["scx", "scriptextensions"].contains property then Unicode.scriptExtension? value
  else if property == "age" then Unicode.age? value
  else if ["gcb", "graphemeclusterbreak"].contains property then
    Unicode.break? Unicode.graphemeBreaks value
  else if ["wb", "wordbreak"].contains property then Unicode.break? Unicode.wordBreaks value
  else if ["sb", "sentencebreak"].contains property then
    Unicode.break? Unicode.sentenceBreaks value
  else none

/-- The set that a name stands for, which does not yet tell other values apart.  A
name of a property goes before a name of a category, and that before a name of a
script; three short names of categories are also names of properties that have no
table. -/
def PropertyName.set? : PropertyName → Option CharSet
  | name n =>
    let n := Unicode.normalize n
    let property := if ["cf", "sc", "lc"].contains n then none else Unicode.property? n
    property.orElse fun _ => (categorySet? n).orElse fun _ => Unicode.script? n
  | value property _ v => valueSet? (Unicode.normalize property) (Unicode.normalize v)

/-- Whether a name stands for the characters with other values. -/
def PropertyName.differs : PropertyName → Bool
  | name _ => false
  | value _ differs _ => differs

end PhoneticSearch.Regex
