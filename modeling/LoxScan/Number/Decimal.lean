import LoxScan.Number.Rounding

/-!
# Decimal numerals

Non-negative decimal numbers, how digits spell them, and which double each of
them denotes.

## Main Definitions

* `Decimal` — a coefficient times a power of ten
* `Decimal.ofNumeral` — the value of a numeral such as `12` or `12.50`
* `Decimal.toBinary64` — the nearest double
* `Decimal.normalized` — the same number without trailing zeros in its coefficient
-/

namespace LoxScan

/-- The decimal number `coefficient * 10 ^ exponent`. -/
structure Decimal where
  coefficient : Nat
  exponent : Int
deriving DecidableEq, Repr

namespace Decimal

/-- The value of a numeral: digits, optionally followed by a point and more
digits.  The digits after the point count towards the power of ten. -/
def ofNumeral (numeral : List Char) : Decimal :=
  let whole := numeral.takeWhile (· ≠ '.')
  let fraction := (numeral.dropWhile (· ≠ '.')).drop 1
  { coefficient := Nat.ofDigitChars 10 (whole ++ fraction) 0
    exponent := -(fraction.length : Int) }

/-- The numerator of a decimal number written as a fraction. -/
def numerator (d : Decimal) : Nat := d.coefficient * Nat.pow 10 d.exponent.toNat

/-- The denominator of a decimal number written as a fraction. -/
def denominator (d : Decimal) : Nat := Nat.pow 10 (-d.exponent).toNat

/-- The double nearest to a decimal number. -/
def toBinary64 (d : Decimal) : Binary64 := Binary64.nearest d.numerator d.denominator

theorem denominator_pos (d : Decimal) : 0 < d.denominator := Nat.pow_pos (by decide)

/-- The same number, with the zeros at the end of the coefficient moved into
the power of ten. -/
def normalized (d : Decimal) : Decimal :=
  if d.coefficient ≠ 0 ∧ d.coefficient % 10 = 0 then
    normalized { coefficient := d.coefficient / 10, exponent := d.exponent + 1 }
  else d
termination_by d.coefficient
decreasing_by omega

end Decimal

end LoxScan
