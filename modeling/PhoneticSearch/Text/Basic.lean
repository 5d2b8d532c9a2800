/-!
# Texts and their byte offsets

A text is the list of its characters.  Positions inside a text that is searched
as text are counted in bytes of its UTF-8 form: `Text.size` is the length of a
text in bytes, and `Text.slice` is the part of a text between two byte offsets,
which exists only where both offsets lie between two characters.

The rest are the small readers that comma separated lists, symbol maps and names
are taken apart with.
-/

namespace PhoneticSearch

/-- A text is the list of its characters. -/
abbrev Text := List Char

namespace Text

/-- The length of a text in bytes of its UTF-8 form. -/
def size : Text → Nat
  | [] => 0
  | c :: rest => c.utf8Size + size rest

@[simp] theorem size_nil : size [] = 0 := rfl

@[simp] theorem size_cons (c : Char) (t : Text) : size (c :: t) = c.utf8Size + size t := rfl

@[simp] theorem size_append (s t : Text) : size (s ++ t) = size s + size t := by
  induction s with
  | nil => simp
  | cons c s ih => simp [ih, Nat.add_assoc]

/-- The text that starts `offset` bytes into `t`, where a character starts or
the text ends there. -/
def fromByte : Text → Nat → Option Text
  | t, 0 => some t
  | [], _ + 1 => none
  | c :: rest, offset + 1 =>
    if c.utf8Size ≤ offset + 1 then fromByte rest (offset + 1 - c.utf8Size) else none

/-- The first `count` bytes of `t`, where they are whole characters. -/
def takeBytes : Text → Nat → Option Text
  | _, 0 => some []
  | [], _ + 1 => none
  | c :: rest, count + 1 =>
    if c.utf8Size ≤ count + 1 then (takeBytes rest (count + 1 - c.utf8Size)).map (c :: ·)
    else none

/-- The part of `t` between two byte offsets; none where an offset is inside a
character or past the end, or where the offsets are out of order. -/
def slice (t : Text) (start stop : Nat) : Option Text :=
  if start ≤ stop then (fromByte t start).bind (takeBytes · (stop - start)) else none

/-- The text before and after the first `mark`. -/
def cutAt (mark : Char) : Text → Option (Text × Text)
  | [] => none
  | c :: rest =>
    if c = mark then some ([], rest) else (cutAt mark rest).map fun (a, b) => (c :: a, b)

/-- What is left of `t` after `start`, where `t` starts with it. -/
def after? : (start : Text) → Text → Option Text
  | [], t => some t
  | _ :: _, [] => none
  | a :: start, c :: t => if a = c then after? start t else none

/-- What is left of `t` before `ending`, where `t` ends with it. -/
def before? (ending t : Text) : Option Text :=
  (after? ending.reverse t.reverse).map List.reverse

/-- The texts of a list, `separator` between neighbours. -/
def join (separator : Text) : List Text → Text
  | [] => []
  | [t] => t
  | t :: rest => t ++ separator ++ join separator rest

/-- The small letter of a capital ASCII letter; any other character is its own. -/
def asciiLower (c : Char) : Char :=
  if 'A' ≤ c ∧ c ≤ 'Z' then Char.ofNat (c.toNat + 32) else c

/-- The capital letter of a small ASCII letter; any other character is its own. -/
def asciiUpper (c : Char) : Char :=
  if 'a' ≤ c ∧ c ≤ 'z' then Char.ofNat (c.toNat - 32) else c

/-- A text as the string that is printed. -/
def asString (t : Text) : String := String.ofList t

end Text

end PhoneticSearch
