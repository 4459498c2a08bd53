/-!
# Binary floating point, exactly

A finite double stands for `± m · 2 ^ e`. This module reads the three parts off the bits
(`FloatParts.ofFloat?`) and finds the double nearest to a quotient of natural numbers, ties to the
even one (`nearestFloat`), in exact arithmetic throughout. The rounding itself is `roundDiv`.
-/

namespace SqlCompose.Number

/-- The parts of a finite double: its value is `± significand · 2 ^ exponent`. -/
structure FloatParts where
  negative : Bool
  significand : Nat
  exponent : Int
  deriving DecidableEq, Repr

/-- The parts of a double; infinities and NaN have none. -/
def FloatParts.ofFloat? (x : Float) : Option FloatParts :=
  let bits : Nat := x.toBits.toNat
  let negative := bits / Nat.pow 2 63 == 1
  let biased : Nat := bits / Nat.pow 2 52 % Nat.pow 2 11
  let fraction : Nat := bits % Nat.pow 2 52
  if biased == 0x7FF then none
  else if biased == 0 then some ⟨negative, fraction, -1074⟩
  else some ⟨negative, fraction + Nat.pow 2 52, (biased : Int) - 1075⟩

/-- The quotient rounded to the nearest natural number, a tie to the even one. -/
def roundDiv (num den : Nat) : Nat :=
  let q := num / den
  let r := num % den
  if 2 * r < den then q
  else if den < 2 * r then q + 1
  else if q % 2 = 0 then q else q + 1

/-- The exponent that leaves 53 bits for the quotient, or the least one there is. -/
def ratioExponent (num den : Nat) : Int :=
  let top : Int := (num.log2 : Int) - den.log2
  let below := if 0 ≤ top then num < den * Nat.pow 2 top.toNat
    else num * Nat.pow 2 (-top).toNat < den
  max (top - 52 - if below then 1 else 0) (-1074)

/--
The double nearest to `± num / den`, a tie to the even one. The significand and the exponent stand
next to each other in the bits, so a significand rounded up to the next power of two carries into
the exponent, and past the greatest exponent lies infinity.
-/
def nearestFloat (negative : Bool) (num den : Nat) : Float :=
  let bits :=
    if num = 0 then 0
    else
      let e := ratioExponent num den
      let q := if 0 ≤ e then roundDiv num (den * Nat.pow 2 e.toNat)
        else roundDiv (num * Nat.pow 2 (-e).toNat) den
      min ((e + 1074).toNat * Nat.pow 2 52 + q) (0x7FF * Nat.pow 2 52)
  Float.ofBits (UInt64.ofNat (bits + if negative then Nat.pow 2 63 else 0))

end SqlCompose.Number
