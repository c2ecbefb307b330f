import LoxScan.Number.Shortest

/-!
# The text of a double

How the digits of a double are laid out: with a plain decimal point for
middling magnitudes, in scientific form for the very large and the very small.

## Main Definitions

* `NumberLayout` — the choices that fix a layout
* `numberLayout` — the layout in which number literals are written
* `NumberLayout.write` — digits and the place of the point as text
* `Binary64.text` — the text of any double
-/

namespace LoxScan

/-- The choices that fix how digits are laid out. -/
structure NumberLayout where
  /-- The lowest place of the decimal point that is written positionally. -/
  lowestPlace : Int
  /-- The highest place of the decimal point that is written positionally. -/
  highestPlace : Int
  /-- The least number of digits of a written exponent. -/
  exponentWidth : Nat

/-- Numbers from `0.0001` up to below `10 ^ 16` are written positionally, and
exponents have at least two digits. -/
def numberLayout : NumberLayout where
  lowestPlace := -3
  highestPlace := 16
  exponentWidth := 2

/-- Digits with a decimal point before, inside or behind them.  There is always
a digit on either side of the point. -/
def writePositional (digits : List Char) (place : Int) : List Char :=
  if place ≤ 0 then '0' :: '.' :: List.replicate (-place).toNat '0' ++ digits
  else
    let whole := place.toNat
    if whole < digits.length then digits.take whole ++ '.' :: digits.drop whole
    else digits ++ List.replicate (whole - digits.length) '0' ++ ['.', '0']

/-- A signed exponent with at least `width` digits. -/
def writeExponent (width : Nat) (exponent : Int) : List Char :=
  let digits := Nat.toDigits 10 exponent.natAbs
  'e' :: (if exponent < 0 then '-' else '+') ::
    (List.replicate (width - digits.length) '0' ++ digits)

/-- One digit, a point if more digits follow, and the power of ten. -/
def writeScientific (width : Nat) (digits : List Char) (place : Int) : List Char :=
  let fraction := match digits.drop 1 with
    | [] => []
    | more => '.' :: more
  digits.take 1 ++ fraction ++ writeExponent width (place - 1)

/-- Digits in the form that the layout chooses for the place of their point. -/
def NumberLayout.write (layout : NumberLayout) (digits : List Char) (place : Int) : List Char :=
  if layout.lowestPlace ≤ place ∧ place ≤ layout.highestPlace then
    writePositional digits place
  else writeScientific layout.exponentWidth digits place

/-- The text of a decimal number. -/
def Decimal.write (layout : NumberLayout) (d : Decimal) : List Char :=
  let digits := Nat.toDigits 10 d.coefficient
  if d.coefficient = 0 then ['0', '.', '0']
  else layout.write digits (digits.length + d.exponent)

namespace Binary64

/-- The text of a double without its sign. -/
def magnitudeText (rank : Nat) : List Char :=
  if rank < infinityRank then (shortest rank).write numberLayout
  else "inf".toList

/-- The text of a double: `nan` whatever its sign, otherwise the magnitude
behind a minus sign if it is negative. -/
def text (x : Binary64) : List Char :=
  if x.isNaN then "nan".toList
  else if x.negative then '-' :: magnitudeText x.rank
  else magnitudeText x.rank

end Binary64

end LoxScan
