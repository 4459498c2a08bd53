import SqlCompose.Number.Shortest
import SqlCompose.Text.Blank
import SqlCompose.Text.Digit

/-!
# Decimal numbers

A decimal keeps the digits it was written with: `1.50` and `1.5` are equal numbers and different
decimals. This module holds the type, its reader and its written form, and the exact conversions to
and from the other numbers.

The written form is positional unless the exponent is positive or the number has more than six
zeros behind the point. Two decimals are the same number when their normal forms agree.
-/

namespace SqlCompose.Number

/-- A decimal `± coefficient · 10 ^ exponent`, an infinity, or no number. -/
inductive Decimal where
  | finite (negative : Bool) (coefficient : Nat) (exponent : Int)
  | infinity (negative : Bool)
  /-- What is no number has a sign too and can carry one; a signaling one has no double. -/
  | nan (negative signaling : Bool) (payload : Nat)
  deriving DecidableEq, Repr

namespace Decimal

/-- The decimal of an integer. -/
def ofInt (n : Int) : Decimal := finite (n < 0) n.natAbs 0

/-- Whether the decimal is a number with a finite value. -/
def isFinite : Decimal → Bool
  | finite .. => true
  | _ => false

/-- Whether the decimal is no number and refuses to be compared. -/
def isSignaling : Decimal → Bool
  | nan _ signaling _ => signaling
  | _ => false

/-- The written form of a number with the given digits. -/
def digitsText (ds : List Char) (exponent : Int) : List Char :=
  let point : Int := ds.length + exponent
  let shown : Int := if exponent ≤ 0 ∧ -6 < point then point else 1
  let body :=
    if shown ≤ 0 then '0' :: '.' :: List.replicate (-shown).toNat '0' ++ ds
    else if ds.length ≤ shown then ds ++ List.replicate (shown.toNat - ds.length) '0'
    else ds.take shown.toNat ++ '.' :: ds.drop shown.toNat
  if point = shown then body
  else
    let e := point - shown
    body ++ ['E', if e < 0 then '-' else '+'] ++ Nat.toDigits 10 e.natAbs

/-- The written form of a decimal, which keeps its digits and its scale. -/
def text : Decimal → String
  | finite negative c e =>
    String.ofList ((if negative then ['-'] else []) ++ digitsText (Nat.toDigits 10 c) e)
  | infinity negative => if negative then "-Infinity" else "Infinity"
  | nan negative signaling payload =>
    (if negative then "-" else "") ++ (if signaling then "s" else "") ++ "NaN" ++
      (if payload = 0 then "" else toString payload)

/-! ## Reading -/

/-- The greatest exponent that the first digit of a decimal can have. -/
def maxExponent : Int := 999999999999999999

/-- The least exponent that the last digit of a decimal can have. -/
def minExponent : Int := -1999999999999999997

/-- The finite decimal, if its exponents are within the limits. -/
def finite? (negative : Bool) (coefficient : Nat) (exponent : Int) : Option Decimal :=
  let digits : Int := if coefficient = 0 then 1 else Shortest.digitCount coefficient
  let first := exponent + (digits - 1)
  if minExponent ≤ exponent ∧ first ≤ maxExponent then some (finite negative coefficient exponent)
  else none

/-- The exponent behind the digits of a number, with nothing left over. -/
def exponent? (value? : Char → Option Nat) : List Char → Option Int
  | [] => some 0
  | c :: rest =>
    if c == 'e' || c == 'E' then
      let (minus, rest) := Text.takeSign rest
      match Text.spanDigits value? rest with
      | ([], _) => none
      | (ds, []) => some (if minus then -(Text.ofDigits ds : Int) else Text.ofDigits ds)
      | _ => none
    else none

/-- The parts of a number in digits, with a point and an exponent or without. -/
def parts? (value? : Char → Option Nat) (cs : List Char) : Option (Nat × Int) :=
  let (whole, rest) := Text.spanDigits value? cs
  let (places, rest) :=
    match rest with
    | '.' :: more => Text.spanDigits value? more
    | _ => ([], rest)
  if whole.isEmpty && places.isEmpty then none
  else
    (exponent? value? rest).map fun e => (Text.ofDigits (whole ++ places), e - places.length)

/-- Reads the word for no number in any case, with digits behind it or an `s` before it. -/
def nan? (negative : Bool) (cs : List Char) : Option Decimal :=
  let (signaling, word) :=
    match cs with
    | c :: rest => if c == 's' || c == 'S' then (true, rest) else (false, cs)
    | [] => (false, [])
  match Text.spanDigits Text.digitValue? (word.drop 3) with
  | (payload, []) =>
    if (word.take 3).map Char.toLower == ['n', 'a', 'n'] then
      some (nan negative signaling (Text.ofDigits payload))
    else none
  | _ => none

/-- Whether the text is a word for infinity in any case. -/
def isInfinity (cs : List Char) : Bool :=
  let low := cs.map Char.toLower
  low == "inf".toList || low == "infinity".toList

/--
Reads a decimal: blanks around it and underscores in it do not count, and the digits may be of any
script.
-/
def ofText? (s : String) : Option Decimal :=
  let cs := (Text.trim Text.isBlank s.toList).filter (· != '_')
  let (negative, body) := Text.takeSign cs
  if isInfinity body then some (infinity negative)
  else
    (nan? negative body).or
      ((parts? Text.digitValue? body).bind fun (c, e) => finite? negative c e)

/-! ## Other numbers -/

/-- The decimal with the digits of a double's shortest text. -/
def ofFloat (x : Float) : Decimal :=
  (ofText? (Shortest.text x)).getD (nan false false 0)

/-- The double nearest to the decimal; beyond the doubles lie infinity and zero. -/
def toFloat : Decimal → Float
  | finite negative c e =>
    let top := e + (Shortest.digitCount c : Int)
    if c = 0 ∨ top < -400 then nearestFloat negative 0 1
    else if 400 < top then nearestFloat negative (Nat.pow 10 400) 1
    else nearestFloat negative (c * Nat.pow 10 e.toNat) (Nat.pow 10 (-e).toNat)
  | infinity negative => nearestFloat negative (Nat.pow 10 400) 1
  | nan .. => 0 / 0

/-- The integer that the decimal is, if it is one. -/
def toInt? : Decimal → Option Int
  | finite negative c e =>
    let up := c * Nat.pow 10 e.toNat
    let down := Nat.pow 10 (-e).toNat
    if c = 0 then some 0
    else if Shortest.digitCount c < (-e).toNat then none
    else if up % down = 0 then some (if negative then -(up / down : Nat) else (up / down : Nat))
    else none
  | _ => none

/-- The integer part of a finite decimal: its digits behind the point are cut off. -/
def truncate? : Decimal → Option Int
  | finite negative c e =>
    let whole : Nat :=
      if Shortest.digitCount c < (-e).toNat then 0
      else c * Nat.pow 10 e.toNat / Nat.pow 10 (-e).toNat
    some (if negative then -(whole : Int) else whole)
  | _ => none

/-! ## Equal numbers -/

/-- A coefficient without zeros at its end, and the exponent that makes up for them. -/
def strip (c : Nat) (e : Int) : Nat × Int :=
  if h : 0 < c ∧ c % 10 = 0 then strip (c / 10) (e + 1) else (c, e)
termination_by c
decreasing_by omega

/-- The one form of a finite number: no zeros at the end of the digits, and a single zero. -/
def normal? : Decimal → Option (Bool × Nat × Int)
  | finite negative c e =>
    if c = 0 then some (false, 0, 0)
    else
      let (c, e) := strip c e
      some (negative, c, e)
  | _ => none

/-- The exact decimal of a finite double. -/
def exactOfFloat? (x : Float) : Option Decimal :=
  (FloatParts.ofFloat? x).map fun p =>
    finite p.negative
      (p.significand * Nat.pow 2 p.exponent.toNat * Nat.pow 5 (-p.exponent).toNat)
      (min p.exponent 0)

/-- Whether two decimals are the same number. -/
def sameNumber (a b : Decimal) : Bool :=
  match a, b with
  | infinity m, infinity n => m == n
  | _, _ =>
    match a.normal?, b.normal? with
    | some x, some y => x == y
    | _, _ => false

end Decimal

end SqlCompose.Number
