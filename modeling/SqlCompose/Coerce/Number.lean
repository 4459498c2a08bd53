import SqlCompose.Value

/-!
# Values as numbers

Which values count as an integer, as a floating point number or as a decimal, and as which. Texts
are read as numbers; bytes are read as the text they hold, except as a decimal. A truth value is
zero or one, except as a decimal.
-/

namespace SqlCompose.Coerce

/-- The text that a value is or holds as UTF-8. -/
def textOf? : Value → Option String
  | .text s => some s
  | .bytes bs => String.fromUTF8? ⟨bs.toArray⟩
  | _ => none

/-- Reads the plain text of an integer: a minus or none, and digits without a zero in front. -/
def plainInt? (cs : List Char) : Option Int :=
  let (minus, body) :=
    match cs with
    | '-' :: rest => (true, rest)
    | _ => (false, cs)
  match Text.spanDigits Text.asciiDigit? body with
  | (d :: ds, []) =>
    if (d = 0 && !ds.isEmpty) || Text.maxDigits ≤ ds.length then none
    else some (if minus then -(Text.ofDigits (d :: ds) : Int) else Text.ofDigits (d :: ds))
  | _ => none

/-- Removes the underscores from a text in which each stands between two other characters. -/
def ungroup? (afterOther : Bool) : List Char → Option (List Char)
  | [] => some []
  | c :: rest =>
    if c = '_' then
      if afterOther && !rest.isEmpty then ungroup? false rest else none
    else (ungroup? true rest).map (c :: ·)

/--
The text from behind the zeros in front, between which there may be underscores. What stands before
a point, or at the end, stays.
-/
def dropZerosAfter? (last : Char) : List Char → Option (List Char)
  | [] => some [last]
  | c :: rest =>
    if c = '0' ∨ c = '_' then dropZerosAfter? c rest
    else if c = '.' then some (last :: c :: rest)
    else if c = '-' ∨ (Text.asciiDigit? c).isSome then some (c :: rest)
    else none

/-- The text of an integer without the zeros in front, which may have a minus before them. -/
def dropZeros? : List Char → Option (List Char)
  | '0' :: rest => dropZerosAfter? '0' rest
  | '-' :: rest => (dropZeros? rest).map ('-' :: ·)
  | c :: rest => if (Text.asciiDigit? c).isSome then some (c :: rest) else none
  | [] => none

/-- The text without a point behind which there are only zeros. -/
def dropPlaces (cs : List Char) : List Char :=
  match cs.dropWhile (· != '.') with
  | '.' :: d :: ds => if (d :: ds).all (· == '0') then cs.takeWhile (· != '.') else cs
  | _ => cs

/-- The text without a plus in front; no minus may follow it. -/
def dropPlus? : List Char → Option (List Char)
  | '+' :: '-' :: _ => none
  | '+' :: rest => some rest
  | cs => some cs

/--
Reads an integer from a text, which may have blanks around it, a plus, zeros in front, zeros behind
a point, and underscores inside.
-/
def intOfText? (s : String) : Option Int := do
  let unsigned ← dropPlus? (Text.trim Text.isWhiteSpace s.toList)
  let bare ← dropZeros? unsigned
  plainInt? (← ungroup? false (dropPlaces bare))

/-- Reads a floating point number, or a word for an infinity or NaN in any case. -/
def floatOfChars? (cs : List Char) : Option Float :=
  let (minus, body) := Text.takeSign cs
  if Number.Decimal.isInfinity body then some (Number.Decimal.infinity minus).toFloat
  else if body.map Char.toLower = ['n', 'a', 'n'] then some (0 / 0)
  else
    (Number.Decimal.parts? Text.asciiDigit? body).map fun (c, e) =>
      (Number.Decimal.finite minus c e).toFloat

/-- Reads a floating point number with blanks around it, or one with underscores inside. -/
def floatOfText? (s : String) : Option Float :=
  (floatOfChars? (Text.trim Text.isWhiteSpace s.toList)).or
    ((ungroup? false s.toList).bind floatOfChars?)

/-- The size that integers of 64 bits stay below, the least of them apart. -/
def int64Bound : Nat := Nat.pow 2 63

/-- The integer that a double is, if it is one strictly between the bounds of 64 bits. -/
def intOfFloat? (x : Float) : Option Int := do
  let d ← Number.Decimal.exactOfFloat? x
  let n ← d.toInt?
  if n.natAbs < int64Bound then some n else none

/-- The value as an integer. -/
def toInt? : Value → Option Int
  | .int n => some n
  | .bool b => some (if b then 1 else 0)
  | .float x => intOfFloat? x
  | .decimal d => d.toInt?
  | v => (textOf? v).bind intOfText?

/-- The value as a floating point number; an integer beyond the doubles is none. -/
def toFloat? : Value → Option Float
  | .float x => some x
  | .bool b => some (if b then 1 else 0)
  | .int n =>
    let x := Number.nearestFloat (n < 0) n.natAbs 1
    if x.isInf then none else some x
  | .decimal (.nan _ true _) => none
  | .decimal d => some d.toFloat
  | v => (textOf? v).bind floatOfText?

/-- A digit of a decimal given by its parts. -/
def digitOf? (v : Value) : Option Nat :=
  match v with
  | .int n => if 0 ≤ n ∧ n ≤ 9 then some n.toNat else none
  | .bool b => some (if b then 1 else 0)
  | _ => none

/-- An integer given as such or as a truth value. -/
def wholeOf? : Value → Option Int
  | .int n => some n
  | .bool b => some (if b then 1 else 0)
  | _ => none

/-- The decimal with the given sign, digits and exponent. -/
def decimalOfParts? (sign digits exponent : Value) : Option Number.Decimal := do
  let s ← wholeOf? sign
  let items ← match digits with
    | .list items => some items
    | .tuple items => some items
    | _ => none
  let ds ← items.mapM digitOf?
  let e ← wholeOf? exponent
  if s = 0 then Number.Decimal.finite? false (Text.ofDigits ds) e
  else if s = 1 then Number.Decimal.finite? true (Text.ofDigits ds) e
  else none

/-- The value as a finite decimal. -/
def toDecimal? (v : Value) : Option Number.Decimal :=
  let found :=
    match v with
    | .decimal d => some d
    | .int n => some (Number.Decimal.ofInt n)
    | .float x => some (Number.Decimal.ofFloat x)
    | .text s => Number.Decimal.ofText? s
    | .tuple [sign, digits, exponent] => decimalOfParts? sign digits exponent
    | _ => none
  found.filter Number.Decimal.isFinite

/-- A value taken as a decimal is finite. -/
theorem isFinite_of_toDecimal? {v : Value} {d : Number.Decimal} (h : toDecimal? v = some d) :
    d.isFinite = true :=
  (Option.filter_eq_some_iff.1 h).2

end SqlCompose.Coerce
