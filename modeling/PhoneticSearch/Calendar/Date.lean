import PhoneticSearch.Text.Blank

/-!
# Calendar dates

Dates of the Gregorian calendar, extended to years before its introduction and to
years far ahead.  A `Date` carries the proofs that its year is one of the calendar
and that its month and day exist.  `Date.dayNumber` counts days, so the distance of
two dates is a difference of numbers, and `Date.addMonths?` moves to the same day of
a later month, or to the last day of a shorter one.
-/

namespace PhoneticSearch

/-- Whether a year has a 29th of February. -/
def isLeap (year : Int) : Bool := year % 4 == 0 && (year % 100 != 0 || year % 400 == 0)

/-- The number of days of a month, counted from 1. -/
def daysInMonth (year : Int) (month : Nat) : Nat :=
  if month = 2 then (if isLeap year then 29 else 28)
  else if month = 4 ∨ month = 6 ∨ month = 9 ∨ month = 11 then 30
  else 31

theorem daysInMonth_pos (year : Int) (month : Nat) : 0 < daysInMonth year month := by
  unfold daysInMonth
  split
  · split <;> omega
  · split <;> omega

theorem daysInMonth_le (year : Int) (month : Nat) : daysInMonth year month ≤ 31 := by
  unfold daysInMonth
  split
  · split <;> omega
  · split <;> omega

/-- The first and last years of the calendar. -/
def Date.firstYear : Int := -262143

@[inherit_doc Date.firstYear] def Date.lastYear : Int := 262142

/-- A day of the calendar. -/
structure Date where
  /-- The year; the year 0 is the year before the year 1. -/
  year : Int
  /-- The month, from 1 to 12. -/
  month : Nat
  /-- The day of the month, from 1. -/
  day : Nat
  firstYear_le : Date.firstYear ≤ year
  year_le : year ≤ Date.lastYear
  month_pos : 1 ≤ month
  month_le : month ≤ 12
  day_pos : 1 ≤ day
  day_le : day ≤ daysInMonth year month
deriving DecidableEq

namespace Date

/-- The day with the given year, month and day of the month, if there is one. -/
def of? (year : Int) (month day : Nat) : Option Date :=
  if h : (firstYear ≤ year ∧ year ≤ lastYear) ∧ (1 ≤ month ∧ month ≤ 12) ∧
      (1 ≤ day ∧ day ≤ daysInMonth year month) then
    some ⟨year, month, day, h.1.1, h.1.2, h.2.1.1, h.2.1.2, h.2.2.1, h.2.2.2⟩
  else none

/-- The days of a year before the first of a month. -/
def daysBeforeMonth (year : Int) : Nat → Nat
  | 0 => 0
  | 1 => 0
  | month + 1 => daysBeforeMonth year month + daysInMonth year month

/-- The days before the first of January of a year, counted from the year 1. -/
def daysBeforeYear (year : Int) : Int :=
  let y := year - 1
  365 * y + y / 4 - y / 100 + y / 400

/-- The number of a day; consecutive days have consecutive numbers. -/
def dayNumber (d : Date) : Int :=
  daysBeforeYear d.year + daysBeforeMonth d.year d.month + d.day

/-- The number of a month; consecutive months have consecutive numbers. -/
def monthNumber (d : Date) : Int := d.year * 12 + (d.month - 1 : Nat)

/-- Whether a date comes before another. -/
def before (a b : Date) : Bool :=
  a.year < b.year ||
    (a.year == b.year && (a.month < b.month || (a.month == b.month && a.day < b.day)))

/-- The same day a number of months later, or the last day of that month where
it is shorter; none behind the last year. -/
def addMonths? (d : Date) (months : Nat) : Option Date :=
  let n := d.monthNumber + months
  let year := n / 12
  let month := (n % 12).toNat + 1
  of? year month (min d.day (daysInMonth year month))

/-! ### Writing -/

/-- The decimal digits of a number, with zeros in front up to a width. -/
def padded (width n : Nat) : String :=
  let digits := Nat.repr n
  String.ofList (List.replicate (width - digits.length) '0') ++ digits

/-- A date as year, month and day; a year outside 0 to 9999 has a sign. -/
def render (d : Date) : String :=
  let year :=
    if 0 ≤ d.year ∧ d.year ≤ 9999 then padded 4 d.year.toNat
    else (if d.year < 0 then "-" else "+") ++ padded 4 d.year.natAbs
  year ++ "-" ++ padded 2 d.month ++ "-" ++ padded 2 d.day

/-! ### Reading -/

/-- The value of at most `width` leading digits, at least one, and the text after
them. -/
def readNumber (width : Nat) (t : Text) : Option (Nat × Text) :=
  let digits := (t.take width).takeWhile Char.isDigit
  if digits.isEmpty then none
  else some (digits.foldl (fun n c => 10 * n + (c.toNat - '0'.toNat)) 0, t.drop digits.length)

/-- A year, which has up to four digits, or a sign and any number of digits. -/
def readYear (t : Text) : Option (Int × Text) :=
  match t with
  | '-' :: rest => (readNumber rest.length rest).map fun (n, rest) => (-(n : Int), rest)
  | '+' :: rest => (readNumber rest.length rest).map fun (n, rest) => ((n : Int), rest)
  | _ => (readNumber 4 t).map fun (n, rest) => ((n : Int), rest)

/-- The text after a hyphen with white space around it. -/
def skipHyphen (t : Text) : Option Text :=
  match Text.trimStart t with
  | '-' :: rest => some (Text.trimStart rest)
  | _ => none

/-- Reads a date written as year, month and day with hyphens between them; there
may be white space around each part. -/
def read (t : Text) : Option Date := do
  let (year, rest) ← readYear (Text.trimStart t)
  let (month, rest) ← readNumber 2 (← skipHyphen rest)
  let (day, rest) ← readNumber 2 (← skipHyphen rest)
  if (Text.trimStart rest).isEmpty then of? year month day else none

end Date

end PhoneticSearch
