import LoxScan.Number.Binary64

/-!
# Correct rounding

The double nearest to a non-negative fraction, with ties going to the even
neighbour.

## Main Definitions

* `roundHalfEven` — the integer nearest to a fraction
* `Binary64.nearest` — the double nearest to a fraction
-/

namespace LoxScan

/-- The integer nearest to `num / den`; a value midway between two integers goes
to the even one. -/
def roundHalfEven (num den : Nat) : Nat :=
  let floor := num / den
  let excess := 2 * (num % den)
  if excess < den then floor
  else if den < excess then floor + 1
  else floor + floor % 2

/-- A rounded fraction is its floor or the integer after it. -/
theorem roundHalfEven_eq_or (num den : Nat) :
    roundHalfEven num den = num / den ∨ roundHalfEven num den = num / den + 1 := by
  simp only [roundHalfEven]
  split
  · exact Or.inl rfl
  · split
    · exact Or.inr rfl
    · omega

namespace Binary64

/-- The rank of the double nearest to `num / den`, ties going to the even rank.

Counted in units of `2 ^ -1074` the value has a whole part of some number of
bits; `spare` is how many of them do not fit into a significand.  Rounding to a
multiple of `2 ^ spare` units gives the significand, and the ranks whose
spacing is `2 ^ spare` start `spare` blocks further on.  A significand that is
rounded up to `2 ^ 53` is the first rank of the next block, and what lies
beyond the finite ranks is infinity. -/
def nearestRank (num den : Nat) : Nat :=
  let scaled := num * Nat.pow 2 1074
  let spare := (scaled / den).log2 - 52
  min (roundHalfEven scaled (den * Nat.pow 2 spare) + spare * Nat.pow 2 52) infinityRank

/-- The double nearest to `num / den`, ties going to the even rank. -/
def nearest (num den : Nat) : Binary64 := ofRank false (nearestRank num den)

/-- A rounded fraction is a number: finite, or infinity. -/
theorem nearest_rank_le (num den : Nat) : (nearest num den).rank ≤ infinityRank :=
  Nat.min_le_right _ _

end Binary64

end LoxScan
