import SqlCompose.Text.Digit

/-!
# Dates

Dates of the Gregorian calendar for the years 1 to 9999, their text `YYYY-MM-DD`, and their number
of days from the first of January 1970.

The day number counts whole cycles of 400, 100, 4 and 1 years from the first of March of the year
zero, so that the leap day is the last day of its year.
-/

namespace SqlCompose.Calendar

/-- A day of the calendar. -/
structure Date where
  year : Nat
  month : Nat
  day : Nat
  deriving DecidableEq, Repr

namespace Date

/-- Whether the year has a leap day. -/
def isLeap (year : Nat) : Bool :=
  year % 4 == 0 && (year % 100 != 0 || year % 400 == 0)

/-- The days of a month. -/
def monthLength (year month : Nat) : Nat :=
  if month == 2 then if isLeap year then 29 else 28
  else if month == 4 || month == 6 || month == 9 || month == 11 then 30
  else 31

/-- The date, if the calendar has it. -/
def ofParts? (year month day : Nat) : Option Date :=
  if 1 ≤ year ∧ year ≤ 9999 ∧ 1 ≤ month ∧ month ≤ 12 ∧ 1 ≤ day ∧ day ≤ monthLength year month then
    some ⟨year, month, day⟩
  else none

/-- The days from the first of January 1970 to the date. -/
def dayNumber (d : Date) : Int :=
  let y : Int := if d.month ≤ 2 then (d.year : Int) - 1 else d.year
  let era := y / 400
  let ofEra := y % 400
  let fromMarch : Int := (d.month + 9) % 12
  let ofYear := (153 * fromMarch + 2) / 5 + d.day - 1
  era * 146097 + (ofEra * 365 + ofEra / 4 - ofEra / 100 + ofYear) - 719468

/--
The date that lies the given number of days after the first of January 1970, if it is in range.
-/
def ofDayNumber? (n : Int) : Option Date :=
  let z := n + 719468
  let era := z / 146097
  let ofEra := z % 146097
  let y := (ofEra - ofEra / 1460 + ofEra / 36524 - ofEra / 146096) / 365
  let ofYear := ofEra - (365 * y + y / 4 - y / 100)
  let fromMarch := (5 * ofYear + 2) / 153
  let day := ofYear - (153 * fromMarch + 2) / 5 + 1
  let month := if fromMarch < 10 then fromMarch + 3 else fromMarch - 9
  let year := y + era * 400 + (if month ≤ 2 then 1 else 0)
  if year < 1 then none else ofParts? year.toNat month.toNat day.toNat

/-- A number in at least `width` digits. -/
def padded (width n : Nat) : String :=
  let ds := Nat.toDigits 10 n
  String.ofList (List.replicate (width - ds.length) '0' ++ ds)

/-- The text `YYYY-MM-DD`. -/
def text (d : Date) : String :=
  padded 4 d.year ++ "-" ++ padded 2 d.month ++ "-" ++ padded 2 d.day

/-- Exactly `count` digits at the front of the list: their number, and what follows. -/
def takeNumber? (count : Nat) (cs : List Char) : Option (Nat × List Char) :=
  let (ds, _) := Text.spanDigits Text.asciiDigit? (cs.take count)
  if ds.length = count then some (Text.ofDigits ds, cs.drop count) else none

/-- One given character at the front of the list. -/
def takeChar? (expected : Char) : List Char → Option (List Char)
  | c :: rest => if c = expected then some rest else none
  | [] => none

/-- A date at the front of the list, and what follows it. -/
def take? (cs : List Char) : Option (Date × List Char) := do
  let (year, cs) ← takeNumber? 4 cs
  let cs ← takeChar? '-' cs
  let (month, cs) ← takeNumber? 2 cs
  let cs ← takeChar? '-' cs
  let (day, cs) ← takeNumber? 2 cs
  let date ← ofParts? year month day
  return (date, cs)

/-- Reads a text that is a date and nothing else. -/
def ofText? (cs : List Char) : Option Date := do
  let (date, rest) ← take? cs
  if rest.isEmpty then some date else none

example : dayNumber ⟨1970, 1, 1⟩ = 0 := by decide

example : dayNumber ⟨2000, 3, 1⟩ = dayNumber ⟨2000, 2, 29⟩ + 1 := by decide

end Date

end SqlCompose.Calendar
