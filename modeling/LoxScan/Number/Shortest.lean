import LoxScan.Number.Decimal

/-!
# Shortest decimals

The decimal number with the fewest digits that reads back as a given double.

For each count of digits the decimals with that many digits form a grid, and
only the two grid points next to the double's value have to be tried.  The first
grid on which one of them reads back is taken, and on it the nearer point before
the other one.

## Main Definitions

* `pointPlace` — the power of ten just above a fraction
* `gridNeighbours` — the two decimals around a fraction on one grid, the nearer first
* `Binary64.shortest` — the shortest decimal that reads back
-/

namespace LoxScan

/-- The exponent of the least power of ten that exceeds `num / den`, which is
where the decimal point stands relative to the first digit. -/
def pointPlace (num den : Nat) : Int :=
  if den ≤ num then (Nat.toDigits 10 (num / den)).length
  else
    let digits := (Nat.toDigits 10 (den / num)).length
    if den = num * Nat.pow 10 (digits - 1) then 2 - (digits : Int) else 1 - (digits : Int)

/-- The multiples of `10 ^ exponent` on either side of `num / den`, the nearer
one first; of two equally near ones the one with the even coefficient. -/
def gridNeighbours (num den : Nat) (exponent : Int) : List Decimal :=
  let scaledNum := num * Nat.pow 10 (-exponent).toNat
  let scaledDen := den * Nat.pow 10 exponent.toNat
  let floor := scaledNum / scaledDen
  let near := roundHalfEven scaledNum scaledDen
  let far := if near = floor then floor + 1 else floor
  [⟨near, exponent⟩, ⟨far, exponent⟩]

namespace Binary64

/-- No double needs more digits than this. -/
def digitLimit : Nat := 17

/-- The magnitude of a finite rank as a decimal with all of its digits. -/
def exactDecimal (rank : Nat) : Decimal :=
  { coefficient := units rank * Nat.pow 5 1074, exponent := -1074 }

/-- The decimals that are tried for a finite rank, those with fewer digits first
and the exact value last. -/
def decimalCandidates (rank : Nat) : List Decimal :=
  let place := pointPlace (units rank) (Nat.pow 2 1074)
  (List.range digitLimit).flatMap
      (fun digits : Nat => gridNeighbours (units rank) (Nat.pow 2 1074) (place - (digits + 1)))
    ++ [exactDecimal rank]

/-- The decimal with the fewest digits that reads back as the double of a finite
rank, without trailing zeros; of several the nearest to the double's value. -/
def shortest (rank : Nat) : Decimal :=
  ((decimalCandidates rank).find? (fun d => d.toBinary64.rank = rank)).getD (exactDecimal rank)
    |>.normalized

end Binary64

end LoxScan
