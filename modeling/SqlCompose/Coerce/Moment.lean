import SqlCompose.Coerce.Number

/-!
# Values as dates and times

Texts are read as dates and times, and numbers count from the start of 1970 or from midnight. A date
is also a date and time at midnight of its own clock, given in whatever form. Truth values are no
numbers here.
-/

namespace SqlCompose.Coerce

open Calendar

/-- Reads an integer: a sign or none, and digits. -/
def signedDigits? (cs : List Char) : Option Int :=
  let (minus, body) := Text.takeSign cs
  match Text.spanDigits Text.asciiDigit? body with
  | (d :: ds, []) =>
    some (if minus then -(Text.ofDigits (d :: ds) : Int) else Text.ofDigits (d :: ds))
  | _ => none

/--
Reads a text of digits with a sign or without as a date and time. A text with a point behind its
first digits, of which there may be none, may go on as a floating point number does.
-/
def datetimeOfNumericText? (cs : List Char) : Option DateTime :=
  let (minus, body) := Text.takeSign cs
  match Text.spanDigits Text.asciiDigit? body with
  | (_, '.' :: _) =>
    (Number.Decimal.parts? Text.asciiDigit? body).bind fun (c, e) =>
      DateTime.ofFloat? (Number.Decimal.finite minus c e).toFloat
  | _ => (signedDigits? cs).bind DateTime.ofInt?

/-- Reads a text as a date and time. -/
def datetimeOfText? (s : String) : Option DateTime :=
  (DateTime.ofText? s.toList).or (datetimeOfNumericText? s.toList)

/-- The value as a date and time. -/
def toDateTime? : Value → Option DateTime
  | .datetime d => some d
  | .date d => some (DateTime.ofDate d)
  | .int n => DateTime.ofInt? n
  | .float x => DateTime.ofFloat? x
  | .decimal d => DateTime.ofFloat? d.toFloat
  | v => (textOf? v).bind datetimeOfText?

/-- The value as a date. -/
def toDate? : Value → Option Date
  | .date d => some d
  | v =>
    match (textOf? v).bind fun s => Date.ofText? s.toList with
    | some d => some d
    | none => ((toDateTime? v).filter fun d => d.time.isMidnight).map DateTime.date

/-- The value as a time of day. -/
def toTime? : Value → Option Time
  | .time t => some t
  | .int n => DateTime.timeOfSeconds? n 0
  | .float x => DateTime.timeOfFloat? x
  | .decimal d => DateTime.timeOfFloat? d.toFloat
  | v => (textOf? v).bind fun s => Time.ofText? s.toList

end SqlCompose.Coerce
