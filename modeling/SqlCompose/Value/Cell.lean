import SqlCompose.Error

/-!
# Cells as integers

What is read from a cell of a result is often an integer in another form: a number with a fraction,
which is cut off, or digits of any script in a text or in bytes. A text has at most
`Text.maxDigits` digits, between which there may be single underscores.
-/

namespace SqlCompose.Cell

/-- The character with every decimal digit of any script as the ASCII digit of its value. -/
def asciiForm (c : Char) : Char :=
  match Text.digitValue? c with
  | some d => Char.ofNat ('0'.toNat + d)
  | none => c

/-- The character that stands for a byte; a byte beyond ASCII has none of its own. -/
def charOfByte (b : UInt8) : Char := if b < 0x80 then Char.ofNat b.toNat else '\uFFFD'

/--
The digits at the front of a text, with underscores between them, and what follows. There are none
where an underscore does not stand between two digits.
-/
def takeGrouped? (afterDigit : Bool) : List Char → Option (List Nat × List Char)
  | [] => some ([], [])
  | c :: rest =>
    if c = '_' then
      if afterDigit && (rest.head?.bind Text.asciiDigit?).isSome then takeGrouped? false rest
      else none
    else
      match Text.asciiDigit? c with
      | some d => (takeGrouped? true rest).map fun (ds, after) => (d :: ds, after)
      | none => some ([], c :: rest)

/--
Reads an integer, a text or bytes with the given characters: a sign or none, digits, and blanks
around them.
-/
def intOfChars (v : Value) (cs : List Char) : Except CellFault Int :=
  let (minus, body) := Text.takeSign ((Text.trim Text.isWhiteSpace cs).map asciiForm)
  match takeGrouped? false body with
  | none => .error (.notInteger v)
  | some (digits, rest) =>
    if Text.maxDigits < digits.length then
      .error (.tooManyDigits digits.length Text.maxDigits)
    else if digits.isEmpty || !rest.isEmpty then .error (.notInteger v)
    else .ok (if minus then -(Text.ofDigits digits : Int) else Text.ofDigits digits)

/-- The integer that a cell stands for; a fraction is cut off. -/
def toInt : Value → Except CellFault Int
  | .int n => .ok n
  | .bool b => .ok (if b then 1 else 0)
  | .float x =>
    match Number.Decimal.exactOfFloat? x with
    | some d => ((d.truncate?).map .ok).getD (.error (.nan true))
    | none => .error (if x.isNaN then .nan true else .infinity true)
  | .decimal (.infinity _) => .error (.infinity false)
  | .decimal d => ((d.truncate?).map .ok).getD (.error (.nan false))
  | .text s => intOfChars (.text s) s.toList
  | .bytes bs => intOfChars (.bytes bs) (bs.map charOfByte)
  | .uuid u => .ok u.bits.toNat
  | v => .error (.notANumber v.fullTypeName)

end SqlCompose.Cell
