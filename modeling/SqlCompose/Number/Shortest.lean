import SqlCompose.Number.Binary64

/-!
# The shortest decimal of a double

A double stands for every real number that rounds to it. Its shortest decimal has the fewest digits
of all decimals among those numbers, and of several with as few digits it is the one nearest to the
double. For a given count of digits only the two neighbours of the value on that decimal grid need
to be tried.

`Shortest.text` writes it with a point: positionally from 10^-4 up to 10^16, and with an exponent
outside.
-/

namespace SqlCompose.Number

/-- A decimal `digits · 10 ^ exponent`. -/
structure ScaledDigits where
  digits : Nat
  exponent : Int
  deriving DecidableEq, Repr

namespace Shortest

/-- The count of decimal digits of a number. -/
def digitCount (n : Nat) : Nat := (Nat.toDigits 10 n).length

/-- The exponent of the greatest power of ten that is at most `num / den`. -/
def leadingExponent (num den : Nat) : Int :=
  let shift : Int := (digitCount num : Int) - digitCount den
  let reaches :=
    if 0 ≤ shift then den * Nat.pow 10 shift.toNat ≤ num
    else den ≤ num * Nat.pow 10 (-shift).toNat
  if reaches then shift else shift - 1

/-- The interval of the reals that round to a double, over a common denominator. -/
structure Interval where
  low : Nat
  value : Nat
  high : Nat
  den : Nat
  closed : Bool

/--
The reals that round to `m · 2 ^ e`: half a unit to either side, but a quarter below a power of two,
where the doubles lie closer. The ends belong to it when `m` is even.
-/
def interval (m : Nat) (e : Int) : Interval :=
  let scale := Nat.pow 2 (e - 2).toNat
  let below := if m = Nat.pow 2 52 ∧ -1074 < e then 1 else 2
  { low := (4 * m - below) * scale
    value := 4 * m * scale
    high := (4 * m + 2) * scale
    den := Nat.pow 2 (2 - e).toNat
    closed := m % 2 = 0 }

/-- Whether `num / den` lies in the interval. -/
def Interval.has (i : Interval) (num den : Nat) : Bool :=
  if i.closed then i.low * den ≤ num * i.den && num * i.den ≤ i.high * den
  else i.low * den < num * i.den && num * i.den < i.high * den

/-- The decimal with `count` digits that lies in the interval and nearest to its value, if any. -/
def atCount? (i : Interval) (top : Int) (count : Nat) : Option ScaledDigits :=
  let exponent := top - count + 1
  let up := Nat.pow 10 exponent.toNat
  let down := Nat.pow 10 (-exponent).toNat
  let low := i.value * down / (i.den * up)
  let hasLow := i.has (low * up) down
  let hasHigh := i.has ((low + 1) * up) down
  let lowGap := 2 * (i.value * down - low * up * i.den)
  let gap := up * i.den
  if hasLow && (!hasHigh || lowGap < gap || (lowGap == gap && low % 2 == 0)) then
    some ⟨low, exponent⟩
  else if hasHigh then some ⟨low + 1, exponent⟩
  else none

/-- The shortest decimal of `m · 2 ^ e`; seventeen digits always suffice. -/
def ofParts (m : Nat) (e : Int) : ScaledDigits :=
  if m = 0 then ⟨0, 0⟩
  else
    let i := interval m e
    let top := leadingExponent i.value i.den
    ((List.range 17).findSome? fun k => atCount? i top (k + 1)).getD ⟨0, 0⟩

/-- The digits without zeros at the end. -/
def trimmedDigits (d : ScaledDigits) : List Char :=
  let ds := ((Nat.toDigits 10 d.digits).reverse.dropWhile (· == '0')).reverse
  if ds.isEmpty then ['0'] else ds

/-- The exponent part of a text: a sign and at least two digits. -/
def exponentText (e : Int) : List Char :=
  let ds := Nat.toDigits 10 e.natAbs
  ['e', if e < 0 then '-' else '+'] ++ List.replicate (2 - ds.length) '0' ++ ds

/-- The text of a positive decimal with a point or an exponent. -/
def layout (d : ScaledDigits) : List Char :=
  let ds := trimmedDigits d
  let lead : Int := d.exponent + digitCount d.digits - 1
  if lead < -4 || 16 ≤ lead then
    let rest := ds.drop 1
    ds.take 1 ++ (if rest.isEmpty then [] else '.' :: rest) ++ exponentText lead
  else if lead < 0 then
    ['0', '.'] ++ List.replicate (-lead - 1).toNat '0' ++ ds
  else
    let whole := lead.toNat + 1
    let padded := ds ++ List.replicate (whole - ds.length) '0'
    let rest := padded.drop whole
    padded.take whole ++ '.' :: (if rest.isEmpty then ['0'] else rest)

/-- The text of a double: its shortest decimal, or the word for an infinity or NaN. -/
def text (x : Float) : String :=
  match FloatParts.ofFloat? x with
  | some p =>
    let sign := if p.negative then ['-'] else []
    String.ofList (sign ++ layout (ofParts p.significand p.exponent))
  | none => if x.isNaN then "nan" else if x < 0 then "-inf" else "inf"

example : layout (ofParts 0 0) = ['0', '.', '0'] := by decide

end Shortest

end SqlCompose.Number
