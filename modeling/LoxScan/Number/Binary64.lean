/-!
# Doubles

The sixty-four-bit binary floating-point numbers, as exact values.

A double is its sign together with its *rank*: its place among the non-negative
doubles in increasing order, zero having rank zero.  The rank is what the
low sixty-three bits of the interchange format spell, so the finite ranks, the
rank of infinity and the ranks of the values that are not numbers follow one
another in that order.

## Main Definitions

* `Binary64` — sign and rank
* `Binary64.units` — the magnitude of a finite rank, counted in units of `2 ^ -1074`
* `Binary64.ofWord` — the double that an interchange word encodes
* `Binary64.agrees` — equality of numbers, as arithmetic compares them
-/

namespace LoxScan

/-- A double: its sign, and its rank among the non-negative doubles. -/
structure Binary64 where
  negative : Bool
  rank : Nat
  rank_lt : rank < Nat.pow 2 63
deriving DecidableEq

namespace Binary64

/-- The rank of infinity; smaller ranks are finite and larger ones are not numbers. -/
def infinityRank : Nat := 0x7FF * Nat.pow 2 52

theorem infinityRank_lt : infinityRank < Nat.pow 2 63 := by decide

/-- The double of a given sign whose rank is `rank`, or infinity if that is beyond it. -/
def ofRank (negative : Bool) (rank : Nat) : Binary64 where
  negative := negative
  rank := min rank infinityRank
  rank_lt := Nat.lt_of_le_of_lt (Nat.min_le_right _ _) infinityRank_lt

/-- Positive zero. -/
def zero : Binary64 := ofRank false 0

/-- The double that a sixty-four-bit interchange word encodes. -/
def ofWord (word : Nat) : Binary64 where
  negative := word / Nat.pow 2 63 % 2 = 1
  rank := word % Nat.pow 2 63
  rank_lt := Nat.mod_lt _ (by decide)

/-- The value is neither infinite nor undefined. -/
def isFinite (x : Binary64) : Bool := x.rank < infinityRank

/-- The value is not a number. -/
def isNaN (x : Binary64) : Bool := infinityRank < x.rank

/-- The magnitude at a finite rank, in units of `2 ^ -1074`.

Below `2 ^ 52` consecutive ranks are one unit apart; beyond, each block of
`2 ^ 52` ranks has twice the spacing of the block before it. -/
def units (rank : Nat) : Nat :=
  if rank < Nat.pow 2 52 then rank
  else (Nat.pow 2 52 + rank % Nat.pow 2 52) * Nat.pow 2 (rank / Nat.pow 2 52 - 1)

/-- Equality as arithmetic decides it: a value that is not a number equals
nothing, and the two zeros are equal. -/
def agrees (x y : Binary64) : Bool :=
  !x.isNaN && !y.isNaN && x.rank == y.rank && (x.negative == y.negative || x.rank == 0)

end Binary64

end LoxScan
