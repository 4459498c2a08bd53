import SqlCompose.Calendar.Time

/-!
# Dates with a time

A date and a time of day. A number stands for the seconds from the first of January 1970 in
universal time, or for the milliseconds if it is beyond two times ten to the tenth either way; the
year has to be one of the calendar's.
-/

namespace SqlCompose.Calendar

/-- A date with a time of day. -/
structure DateTime where
  date : Date
  time : Time
  deriving DecidableEq, Repr

namespace DateTime

/-- The text of a date with a time: both texts with a `T` between them. -/
def text (d : DateTime) : String := d.date.text ++ "T" ++ d.time.text

/-- Midnight of a date, without an offset. -/
def ofDate (d : Date) : DateTime := ⟨d, Time.midnight none⟩

/-- The universal date and time that lie the given microseconds after the start of 1970. -/
def ofEpochMicros? (n : Int) : Option DateTime :=
  let day : Int := 86400 * 1000000
  (Date.ofDayNumber? (n / day)).map fun date => ⟨date, Time.ofMicros (n % day).toNat (some 0)⟩

/-- The greatest number that counts seconds; beyond it a number counts milliseconds. -/
def secondsLimit : Nat := 20000000000

/-- The date and time that an integer stands for. -/
def ofInt? (n : Int) : Option DateTime :=
  if n.natAbs ≤ secondsLimit then ofEpochMicros? (n * 1000000) else ofEpochMicros? (n * 1000)

/-- The whole units of a number, and its fraction in parts of a unit, to the nearest one. -/
def splitUnits (parts : Nat) (x : Float) : Int × Nat :=
  let whole := x.floor
  (whole.toInt64.toInt, ((x - whole) * parts.toFloat).round.toUInt64.toNat)

/--
The date and time that a floating point number stands for. The fraction of its unit, a second or a
millisecond, is rounded to microseconds.
-/
def ofFloat? (x : Float) : Option DateTime :=
  if x.isNaN || 1000000000000000 < x.abs then none
  else
    let perUnit : Nat := if x.abs ≤ secondsLimit.toFloat then 1000000 else 1000
    let (whole, rest) := splitUnits perUnit x
    ofEpochMicros? (whole * perUnit + rest)

/-- The time with an offset of zero that many seconds after midnight, if it is within the day. -/
def timeOfSeconds? (whole : Int) (micro : Nat) : Option Time :=
  let total := whole * 1000000 + micro
  if 0 ≤ whole ∧ total < 86400 * 1000000 then some (Time.ofMicros total.toNat (some 0)) else none

/-- The time that a floating point number of seconds after midnight stands for. -/
def timeOfFloat? (x : Float) : Option Time :=
  if x.isNaN ∨ x < 0 ∨ 86400 ≤ x then none
  else
    let (whole, micro) := splitUnits 1000000 x
    timeOfSeconds? whole micro

/-- Whether the character may stand between a date and a time. -/
def isSeparator (c : Char) : Bool := c == 'T' || c == 't' || c == ' ' || c == '_'

/--
Reads a text that is a date, or a date and a time, and nothing else, with an offset to the second if
`fine`.
-/
def read? (fine : Bool) (cs : List Char) : Option DateTime := do
  let (date, rest) ← Date.take? cs
  match rest with
  | [] => some (ofDate date)
  | c :: rest =>
    if isSeparator c then
      let time ← Time.read? fine rest
      some ⟨date, time⟩
    else none

/-- Reads a text that is a date, or a date and a time, and nothing else. -/
def ofText? (cs : List Char) : Option DateTime := read? false cs

/-- Microseconds from the start of 1970 on this clock. -/
def micros (d : DateTime) : Int := d.date.dayNumber * (86400 * 1000000) + d.time.micros

/--
Whether two are the same moment: both with offsets, which are then taken into account, or both
without.
-/
def sameMoment (a b : DateTime) : Bool :=
  match a.time.offset, b.time.offset with
  | none, none => a.micros == b.micros
  | some x, some y => a.micros - x * 1000000 == b.micros - y * 1000000
  | _, _ => false

end DateTime

end SqlCompose.Calendar
