import SqlCompose.Calendar.Date

/-!
# Times of day

A time of day to the microsecond, with an offset from universal time or without. The text has the
seconds always, the fraction in six digits when it is not zero, and the offset when there is one; a
reader also takes times without seconds, a comma before the fraction, and offsets without a colon.
Digits beyond the microsecond are cut off.
-/

namespace SqlCompose.Calendar

/-- A time of day; the offset from universal time is in seconds. -/
structure Time where
  hour : Nat
  minute : Nat
  second : Nat
  micro : Nat
  offset : Option Int
  deriving DecidableEq, Repr

namespace Time

/-- Midnight, with the given offset. -/
def midnight (offset : Option Int) : Time := ⟨0, 0, 0, 0, offset⟩

/-- Whether the clock shows midnight, whatever its offset. -/
def isMidnight (t : Time) : Bool :=
  t.hour == 0 && t.minute == 0 && t.second == 0 && t.micro == 0

/-- The microseconds from midnight on this clock. -/
def micros (t : Time) : Int :=
  ((t.hour * 60 + t.minute) * 60 + t.second) * 1000000 + t.micro

/-- The time on a clock that shows the given microseconds from midnight. -/
def ofMicros (n : Nat) (offset : Option Int) : Time :=
  let s := n / 1000000
  ⟨s / 3600, s / 60 % 60, s % 60, n % 1000000, offset⟩

/-- The text of an offset. -/
def offsetText (seconds : Int) : String :=
  let n := seconds.natAbs
  let tail := if n % 60 = 0 then "" else ":" ++ Date.padded 2 (n % 60)
  (if seconds < 0 then "-" else "+") ++ Date.padded 2 (n / 3600) ++ ":" ++
    Date.padded 2 (n / 60 % 60) ++ tail

/-- The text of a time. -/
def text (t : Time) : String :=
  Date.padded 2 t.hour ++ ":" ++ Date.padded 2 t.minute ++ ":" ++ Date.padded 2 t.second ++
    (if t.micro = 0 then "" else "." ++ Date.padded 6 t.micro) ++
    (t.offset.map offsetText).getD ""

/-! ## Reading -/

/-- The sign of an offset and what follows it; the minus may be the mathematical one. -/
def takeOffsetSign? : List Char → Option (Int × List Char)
  | '+' :: rest => some (1, rest)
  | '-' :: rest => some (-1, rest)
  | '\u2212' :: rest => some (-1, rest)
  | _ => none

/-- The seconds at the end of an offset, where they are taken and there. -/
def takeOffsetSeconds? (fine : Bool) (cs : List Char) : Option (Nat × List Char) :=
  match cs with
  | ':' :: rest => if fine then Date.takeNumber? 2 rest else some (0, cs)
  | _ => some (0, cs)

/--
Reads the end of a text as an offset of less than a day, to the minute or, if `fine`, to the second;
no text is no offset.
-/
def offset? (fine : Bool) (cs : List Char) : Option (Option Int) :=
  match cs with
  | [] => some none
  | ['Z'] => some (some 0)
  | ['z'] => some (some 0)
  | _ => do
    let (sign, cs) ← takeOffsetSign? cs
    let (hours, cs) ← Date.takeNumber? 2 cs
    let cs := (Date.takeChar? ':' cs).getD cs
    let (minutes, cs) ← Date.takeNumber? 2 cs
    let (seconds, cs) ← takeOffsetSeconds? fine cs
    if cs.isEmpty ∧ seconds < 60 ∧ minutes < 60 ∧ hours < 24 then
      some (some (sign * ((hours * 60 + minutes) * 60 + seconds : Nat)))
    else none

/-- The fraction of a second in microseconds, and what follows it. -/
def takeFraction? (cs : List Char) : Option (Nat × List Char) :=
  match cs with
  | c :: rest =>
    if c = '.' ∨ c = ',' then
      let (ds, rest) := Text.spanDigits Text.asciiDigit? rest
      if ds.isEmpty then none
      else some (Text.ofDigits ((ds ++ List.replicate 6 0).take 6), rest)
    else some (0, cs)
  | [] => some (0, [])

/-- The seconds with their fraction, and what follows them; both may be left out. -/
def takeSeconds? (cs : List Char) : Option (Nat × Nat × List Char) :=
  match cs with
  | ':' :: rest => do
    let (second, rest) ← Date.takeNumber? 2 rest
    let (micro, rest) ← takeFraction? rest
    return (second, micro, rest)
  | _ => some (0, 0, cs)

/-- Reads a text that is a time and nothing else, with an offset to the second if `fine`. -/
def read? (fine : Bool) (cs : List Char) : Option Time := do
  let (hour, cs) ← Date.takeNumber? 2 cs
  let cs ← Date.takeChar? ':' cs
  let (minute, cs) ← Date.takeNumber? 2 cs
  let (second, micro, cs) ← takeSeconds? cs
  let offset ← offset? fine cs
  if hour < 24 ∧ minute < 60 ∧ second < 60 then some ⟨hour, minute, second, micro, offset⟩
  else none

/-- Reads a text that is a time and nothing else. -/
def ofText? (cs : List Char) : Option Time := read? false cs

/-! ## Comparison -/

/--
Whether two clocks show the same time: both with offsets, which are then taken into account, or both
without.
-/
def sameTime (a b : Time) : Bool :=
  match a.offset, b.offset with
  | none, none => a.micros == b.micros
  | some x, some y => a.micros - x * 1000000 == b.micros - y * 1000000
  | _, _ => false

end Time

end SqlCompose.Calendar
