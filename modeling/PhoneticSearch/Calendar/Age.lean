import PhoneticSearch.Calendar.Date

/-!
# Ages

The age of a speaker at a recording, in whole years, months and days, written
`YY;MM.DD`.  `Age.between` looks for the last month anniversary of a birth and counts the
days since; ages are ordered by years, then months, then days.
-/

namespace PhoneticSearch

/-- An age. -/
structure Age where
  /-- Whole years. -/
  years : Nat
  /-- Whole months after the last birthday. -/
  months : Nat
  /-- Days after the last month anniversary. -/
  days : Nat
deriving DecidableEq

namespace Age

/-- Whether an age is less than another. -/
def less (a b : Age) : Bool :=
  a.years < b.years ||
    (a.years == b.years && (a.months < b.months || (a.months == b.months && a.days < b.days)))

/-- The order of two ages. -/
def order (a b : Age) : Ordering :=
  if a.less b then .lt else if b.less a then .gt else .eq

/-- The last month anniversary of a birth that is not after a date, of those up to a
number of months: how many months it is after the birth, and its day. -/
def lastAnniversary (birth date : Date) (months : Nat) : Option (Nat × Date) := do
  let day ← birth.addMonths? months
  if date.before day then
    match months with
    | 0 => none
    | earlier + 1 => lastAnniversary birth date earlier
  else some (months, day)

/-- The age at `date` of a person born at `birth`; none before the birth.  The distance
of the two months is the number of months that have begun, of which the last one may
not be over. -/
def between (birth date : Date) : Option Age :=
  if date.before birth then none
  else do
    let begun ← (date.monthNumber - birth.monthNumber).toNat?
    let (months, day) ← lastAnniversary birth date begun
    let days ← (date.dayNumber - day.dayNumber).toNat?
    return ⟨months / 12, months % 12, days⟩

/-- An age as it is written. -/
def render (a : Age) : String :=
  Date.padded 2 a.years ++ ";" ++ Date.padded 2 a.months ++ "." ++ Date.padded 2 a.days

/-- The numbers of an age are below this bound. -/
def numberBound : Nat := Nat.pow 2 32

/-- One number of an age, with white space around it and an optional plus sign. -/
def readNumber (t : Text) : Option Nat :=
  let digits := match Text.trim t with
    | '+' :: rest => rest
    | rest => rest
  if digits.isEmpty || !digits.all Char.isDigit then none
  else
    let n := digits.foldl (fun n c => 10 * n + (c.toNat - '0'.toNat)) 0
    if n < numberBound then some n else none

/-- The written years, months and days; a part that is left out is zero. -/
def parts (t : Text) : Text × Text × Text :=
  match Text.cutAt ';' t with
  | none => (t, ['0'], ['0'])
  | some (years, rest) =>
    match Text.cutAt '.' rest with
    | none => (years, rest, ['0'])
    | some (months, days) => (years, months, days)

/-- Reads years, months and days; the days, or the months and the days, may be
left out. -/
def read (t : Text) : Option Age := do
  let (years, months, days) := parts t
  let age : Age := ⟨← readNumber years, ← readNumber months, ← readNumber days⟩
  if age.months < 12 ∧ age.days < 31 then some age else none

/-- The message for a text that is no age. -/
def invalidMessage (t : Text) : String :=
  "invalid age '" ++ t.asString ++ "', expected YY;MM.DD"

end Age

end PhoneticSearch
