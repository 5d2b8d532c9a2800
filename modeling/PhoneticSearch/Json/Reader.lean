import PhoneticSearch.Json.Value
import PhoneticSearch.Text.Ranges

/-!
# Reading JSON documents

`Json.read` reads one JSON value and nothing but white space around it.  Strings
hold no control characters, numbers have no leading zeros, and commas stand only
between items.
-/

namespace PhoneticSearch.Json

/-- The text after the white space it starts with. -/
def skipBlank (t : Text) : Text :=
  t.dropWhile fun c => c == ' ' || c == '\t' || c == '\n' || c == '\r'

/-- A piece of a string: a character, or one half of a surrogate pair. -/
inductive Unit where
  | char (c : Char)
  | high (n : Nat)
  | low (n : Nat)

/-- The value of four hexadecimal digits. -/
def hex4? (a b c d : Char) : Option Nat := do
  return ((((← Ranges.digit? a) * 16 + (← Ranges.digit? b)) * 16 + (← Ranges.digit? c)) * 16) +
    (← Ranges.digit? d)

/-- The piece that a four digit escape denotes. -/
def Unit.ofCode (n : Nat) : Unit :=
  if 0xD800 ≤ n ∧ n < 0xDC00 then .high (n - 0xD800)
  else if 0xDC00 ≤ n ∧ n < 0xE000 then .low (n - 0xDC00)
  else .char (Char.ofNat n)

/-- The character of a one letter escape. -/
def escape? : Char → Option Char
  | '"' => some '"'
  | '\\' => some '\\'
  | '/' => some '/'
  | 'b' => some '\x08'
  | 'f' => some '\x0c'
  | 'n' => some '\n'
  | 'r' => some '\r'
  | 't' => some '\t'
  | _ => none

/-- The pieces of a string up to its closing quote, and the text after it. -/
def readUnits : Text → Option (List Unit × Text)
  | '"' :: rest => some ([], rest)
  | '\\' :: 'u' :: a :: b :: c :: d :: rest => do
    let n ← hex4? a b c d
    let (units, rest) ← readUnits rest
    return (Unit.ofCode n :: units, rest)
  | '\\' :: e :: rest => do
    let c ← escape? e
    let (units, rest) ← readUnits rest
    return (.char c :: units, rest)
  | c :: rest =>
    if c.toNat < 0x20 || c == '\\' then none
    else do
      let (units, rest) ← readUnits rest
      return (.char c :: units, rest)
  | [] => none

/-- The text of a string whose surrogates stand in pairs. -/
def textOf? : List Unit → Option Text
  | [] => some []
  | .char c :: rest => (textOf? rest).map (c :: ·)
  | .high h :: .low l :: rest =>
    (textOf? rest).map (Char.ofNat (0x10000 + h * 0x400 + l) :: ·)
  | _ => none

/-- The digits a text starts with, and the text after them. -/
def readDigits (t : Text) : Text × Text := (t.takeWhile Char.isDigit, t.dropWhile Char.isDigit)

/-- The text after an exponent, if there is one. -/
def skipExponent : Text → Option Text
  | c :: rest =>
    if c == 'e' || c == 'E' then
      let digits := match rest with
        | '+' :: r => r
        | '-' :: r => r
        | r => r
      match readDigits digits with
      | ([], _) => none
      | (_, rest) => some rest
    else some (c :: rest)
  | [] => some []

/-- The text after a fraction, if there is one. -/
def skipFraction : Text → Option Text
  | '.' :: rest =>
    match readDigits rest with
    | ([], _) => none
    | (_, rest) => some rest
  | t => some t

/-- The value of a sequence of decimal digits. -/
def decimal (digits : Text) : Nat := digits.foldl (fun n c => 10 * n + (c.toNat - '0'.toNat)) 0

/-- A number without its sign, and the text after it. -/
def readUnsigned (t : Text) : Option (Option Nat × Text) :=
  match readDigits t with
  | ([], _) => none
  | ('0' :: _ :: _, _) => none
  | (digits, rest) => do
    let whole ← skipFraction rest
    let rest' ← skipExponent whole
    let n := decimal digits
    return (if rest'.length = rest.length ∧ n ≤ maxCount then some n else none, rest')

mutual

/-- One value, and the text after it. -/
def readValue : (fuel : Nat) → Text → Option (Json × Text)
  | 0, _ => none
  | fuel + 1, t =>
    match skipBlank t with
    | 'n' :: 'u' :: 'l' :: 'l' :: rest => some (.null, rest)
    | 't' :: 'r' :: 'u' :: 'e' :: rest => some (.bool true, rest)
    | 'f' :: 'a' :: 'l' :: 's' :: 'e' :: rest => some (.bool false, rest)
    | '"' :: rest => do
      let (units, rest) ← readUnits rest
      return (.string (textOf? units), rest)
    | '[' :: rest =>
      match skipBlank rest with
      | ']' :: rest => some (.array [], rest)
      | rest => do
        let (items, rest) ← readItems fuel rest
        return (.array items, rest)
    | '\x7b' :: rest =>
      match skipBlank rest with
      | '\x7d' :: rest => some (.object [], rest)
      | rest => do
        let (fields, rest) ← readFields fuel rest
        return (.object fields, rest)
    | '-' :: rest => do
      let (_, rest) ← readUnsigned rest
      return (.number none, rest)
    | t => do
      let (n, rest) ← readUnsigned t
      return (.number n, rest)

/-- The items of an array up to its closing bracket, and the text after it. -/
def readItems : (fuel : Nat) → Text → Option (List Json × Text)
  | 0, _ => none
  | fuel + 1, t => do
    let (item, rest) ← readValue fuel t
    match skipBlank rest with
    | ',' :: rest =>
      let (items, rest) ← readItems fuel rest
      return (item :: items, rest)
    | ']' :: rest => return ([item], rest)
    | _ => none

/-- The fields of an object up to its closing brace, and the text after it. -/
def readFields : (fuel : Nat) → Text → Option (List (Option Text × Json) × Text)
  | 0, _ => none
  | fuel + 1, t =>
    match skipBlank t with
    | '"' :: rest => do
      let (units, rest) ← readUnits rest
      match skipBlank rest with
      | ':' :: rest =>
        let (value, rest) ← readValue fuel rest
        match skipBlank rest with
        | ',' :: rest =>
          let (fields, rest) ← readFields fuel rest
          return ((textOf? units, value) :: fields, rest)
        | '\x7d' :: rest => return ([(textOf? units, value)], rest)
        | _ => none
      | _ => none
    | _ => none

end

/-- The value of a JSON document. -/
def read (document : Text) : Option Json :=
  match readValue (2 * document.length + 2) document with
  | some (value, rest) => if (skipBlank rest).isEmpty then some value else none
  | none => none

end PhoneticSearch.Json
