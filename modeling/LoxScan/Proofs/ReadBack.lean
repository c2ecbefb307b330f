import LoxScan.Number.Shortest
import Mathlib.Algebra.Order.Group.Nat

/-!
# Shortest decimals read back

The text of a double is made from a short decimal.  Whatever the search among the short
candidates comes to, the decimal that it settles on denotes the very double it has been made
for: the exact value of the double stands at the end of the candidates, and rounding it gives
the double again.

Rounding sees nothing of a fraction but its ratio (`Binary64.nearestRank_eq_of_ratio`), so
decimals of the same value denote the same double, however they are written.

## Main Definitions

* `Decimal.Same` — two decimals have the same value
-/

namespace LoxScan

/-! ## Rounding a ratio -/

/-- A common factor of both parts of a fraction changes nothing about its rounding. -/
theorem roundHalfEven_mul (num den : Nat) {factor : Nat} (positive : 0 < factor) :
    roundHalfEven (num * factor) (den * factor) = roundHalfEven num den := by
  have excess : 2 * (num * factor % (den * factor)) = 2 * (num % den) * factor := by
    rw [Nat.mul_mod_mul_right, Nat.mul_assoc]
  simp only [roundHalfEven, Nat.mul_div_mul_right _ _ positive, excess,
    Nat.mul_lt_mul_right positive]

/-- A whole number is rounded to itself. -/
theorem roundHalfEven_mul_self (n : Nat) {den : Nat} (positive : 0 < den) :
    roundHalfEven (n * den) den = n := by
  simp [roundHalfEven, Nat.mul_div_cancel n positive, positive]

namespace Binary64

/-- The rank of the nearest double, with a name for the exponent of the smallest unit: no step
of a proof is to compute that unit. -/
theorem nearestRank_eq {lowest : Nat} (lowest_eq : lowest = 1074) (num den : Nat) :
    nearestRank num den =
      min (roundHalfEven (num * Nat.pow 2 lowest)
          (den * Nat.pow 2 ((num * Nat.pow 2 lowest / den).log2 - 52))
        + ((num * Nat.pow 2 lowest / den).log2 - 52) * Nat.pow 2 52) infinityRank := by
  have unit : Nat.pow 2 1074 = Nat.pow 2 lowest := congrArg _ lowest_eq.symm
  rw [nearestRank, unit]

/-- A common factor of both parts of a fraction changes nothing about its double. -/
theorem nearestRank_mul (num den : Nat) {factor : Nat} (positive : 0 < factor) :
    nearestRank (num * factor) (den * factor) = nearestRank num den := by
  obtain ⟨lowest, lowest_eq⟩ : ∃ lowest, lowest = 1074 := ⟨_, rfl⟩
  have scaled : num * factor * Nat.pow 2 lowest = num * Nat.pow 2 lowest * factor :=
    Nat.mul_right_comm _ _ _
  simp only [nearestRank_eq lowest_eq, scaled, Nat.mul_div_mul_right _ _ positive,
    Nat.mul_right_comm den factor, roundHalfEven_mul _ _ positive]

/-- **Rounding depends on the ratio alone.** -/
theorem nearestRank_eq_of_ratio {num den num' den' : Nat} (positive : 0 < den)
    (positive' : 0 < den') (ratio : num * den' = num' * den) :
    nearestRank num den = nearestRank num' den' :=
  calc nearestRank num den
      = nearestRank (num * den') (den * den') := (nearestRank_mul _ _ positive').symm
    _ = nearestRank (num' * den) (den' * den) := by rw [ratio, Nat.mul_comm den]
    _ = nearestRank num' den' := nearestRank_mul _ _ positive

/-- Powers of two are positive, in the spelling that keeps large ones from being computed. -/
theorem pow_two_pos (n : Nat) : 0 < Nat.pow 2 n := Nat.two_pow_pos n

/-- The bits of a scaled significand that are beyond its fifty-third are those of the scale.
Only where there is no scale may a significand have fewer bits. -/
theorem spare_eq {significand spare : Nat} (fits : significand < Nat.pow 2 53)
    (normal : Nat.pow 2 52 ≤ significand ∨ spare = 0) :
    (significand * Nat.pow 2 spare).log2 - 52 = spare := by
  rcases normal with large | rfl
  · have bits : (significand * 2 ^ spare).log2 = 52 + spare := by
      have positive : 0 < significand * 2 ^ spare :=
        Nat.mul_pos (Nat.lt_of_lt_of_le (by decide) large) (Nat.two_pow_pos spare)
      refine (Nat.log2_eq_iff positive.ne').mpr ⟨?_, ?_⟩
      · rw [Nat.pow_add]
        exact Nat.mul_le_mul_right _ large
      · rw [Nat.add_right_comm, Nat.pow_add]
        exact Nat.mul_lt_mul_of_pos_right fits (Nat.two_pow_pos spare)
    exact Nat.sub_eq_of_eq_add' bits
  · show (significand * 1).log2 - 52 = 0
    rw [Nat.mul_one]
    rcases Nat.eq_zero_or_pos significand with rfl | positive
    · rfl
    · exact Nat.sub_eq_zero_of_le (Nat.le_of_lt_succ ((Nat.log2_lt positive.ne').mpr fits))

/-- A significand of at most fifty-three bits needs no rounding. -/
theorem nearestRank_significand {significand spare lowest : Nat} (lowest_eq : lowest = 1074)
    (fits : significand < Nat.pow 2 53) (normal : Nat.pow 2 52 ≤ significand ∨ spare = 0)
    (finite : significand + spare * Nat.pow 2 52 ≤ infinityRank) :
    nearestRank (significand * Nat.pow 2 spare) (Nat.pow 2 lowest) =
      significand + spare * Nat.pow 2 52 := by
  have grid : 0 < Nat.pow 2 lowest * Nat.pow 2 spare :=
    Nat.mul_pos (pow_two_pos lowest) (pow_two_pos spare)
  rw [nearestRank_eq lowest_eq, Nat.mul_div_cancel _ (pow_two_pos lowest), spare_eq fits normal,
    Nat.mul_right_comm, Nat.mul_assoc, roundHalfEven_mul_self significand grid,
    Nat.min_eq_left finite]

/-- **A double is nearest to its own value.** -/
theorem nearestRank_units {rank lowest : Nat} (lowest_eq : lowest = 1074)
    (finite : rank < infinityRank) : nearestRank (units rank) (Nat.pow 2 lowest) = rank := by
  have double : Nat.pow 2 53 = 2 * Nat.pow 2 52 := by decide
  by_cases small : rank < Nat.pow 2 52
  · have kept : nearestRank (rank * Nat.pow 2 0) (Nat.pow 2 lowest) = rank + 0 * Nat.pow 2 52 :=
      nearestRank_significand lowest_eq (by omega) (.inr rfl)
        (by rw [Nat.zero_mul]; exact finite.le)
    rw [show Nat.pow 2 0 = 1 from rfl, Nat.mul_one, Nat.zero_mul] at kept
    rw [units, if_pos small]
    exact kept
  · have block : 1 ≤ rank / Nat.pow 2 52 :=
      (Nat.one_le_div_iff (pow_two_pos 52)).mpr (Nat.le_of_not_lt small)
    have inside : rank % Nat.pow 2 52 < Nat.pow 2 52 := Nat.mod_lt _ (pow_two_pos 52)
    have place : Nat.pow 2 52 + rank % Nat.pow 2 52 +
        (rank / Nat.pow 2 52 - 1) * Nat.pow 2 52 = rank := by
      have whole := Nat.div_add_mod rank (Nat.pow 2 52)
      have first := Nat.mul_le_mul_left (Nat.pow 2 52) block
      rw [Nat.sub_mul, Nat.one_mul, Nat.mul_comm (rank / Nat.pow 2 52)]
      omega
    rw [units, if_neg small, nearestRank_significand lowest_eq (by omega) (.inl (by omega))
      (by rw [place]; exact finite.le), place]

end Binary64

/-! ## Decimals of the same value -/

namespace Decimal

/-- Two decimals have the same value. -/
def Same (d e : Decimal) : Prop := d.numerator * e.denominator = e.numerator * d.denominator

theorem Same.rfl {d : Decimal} : d.Same d := Eq.refl _

theorem Same.of_parts {d e : Decimal} (coefficient : d.coefficient = e.coefficient)
    (exponent : d.exponent = e.exponent) : d.Same e := by
  rw [Same, numerator, numerator, denominator, denominator, coefficient, exponent]

theorem Same.trans {d e f : Decimal} (first : d.Same e) (second : e.Same f) : d.Same f := by
  refine Nat.eq_of_mul_eq_mul_right e.denominator_pos ?_
  calc d.numerator * f.denominator * e.denominator
      = d.numerator * e.denominator * f.denominator := Nat.mul_right_comm _ _ _
    _ = e.numerator * f.denominator * d.denominator := by
      rw [show d.numerator * e.denominator = _ from first, Nat.mul_right_comm]
    _ = f.numerator * d.denominator * e.denominator := by
      rw [show e.numerator * f.denominator = _ from second, Nat.mul_right_comm]

theorem numerator_neg (coefficient places : Nat) :
    numerator ⟨coefficient, -(places : Int)⟩ = coefficient := by
  simp [numerator]

theorem denominator_neg (coefficient places : Nat) :
    denominator ⟨coefficient, -(places : Int)⟩ = Nat.pow 10 places := by
  simp [denominator]

/-- Decimals of the same value denote the same double. -/
theorem Same.toBinary64_eq {d e : Decimal} (same : d.Same e) : d.toBinary64 = e.toBinary64 := by
  rw [toBinary64, toBinary64, Binary64.nearest, Binary64.nearest,
    Binary64.nearestRank_eq_of_ratio d.denominator_pos e.denominator_pos same]

/-- Zeros at the end of a coefficient can be moved into the power of ten. -/
theorem same_shift (coefficient zeros : Nat) (exponent : Int) :
    Same ⟨coefficient * 10 ^ zeros, exponent⟩ ⟨coefficient, exponent + zeros⟩ := by
  have powers : zeros + exponent.toNat + (-(exponent + zeros)).toNat =
      (exponent + zeros).toNat + (-exponent).toNat := by omega
  simp only [Same, numerator, denominator, Nat.pow_eq]
  rw [Nat.mul_assoc coefficient, Nat.mul_assoc coefficient, Nat.mul_assoc coefficient,
    ← Nat.pow_add, ← Nat.pow_add, ← Nat.pow_add, powers]

/-- Taking the zeros off the end of a coefficient keeps the value. -/
theorem same_normalized (d : Decimal) : d.normalized.Same d := by
  fun_induction normalized d with
  | case1 d zero_last ih =>
    have coefficient : d.coefficient / 10 * 10 ^ 1 = d.coefficient := by omega
    have moved := same_shift (d.coefficient / 10) 1 d.exponent
    rw [coefficient] at moved
    exact ih.trans moved.symm
  | case2 d _ => exact .rfl

end Decimal

/-! ## The shortest decimal -/

namespace Binary64

/-- The powers of ten are products of powers of five and two. -/
theorem pow_ten (n : Nat) : Nat.pow 10 n = Nat.pow 5 n * Nat.pow 2 n := Nat.mul_pow 5 2 n

/-- A fraction over a power of ten whose numerator has all the fives is one over the power
of two. -/
theorem nearestRank_pow_ten (num n : Nat) :
    nearestRank (num * Nat.pow 5 n) (Nat.pow 10 n) = nearestRank num (Nat.pow 2 n) := by
  rw [pow_ten, Nat.mul_comm (Nat.pow 5 n)]
  exact nearestRank_mul num (Nat.pow 2 n) (Nat.pow_pos (by decide))

/-- The exact decimal of a finite rank denotes it. -/
theorem rank_exactDecimal {rank : Nat} (finite : rank < infinityRank) :
    (exactDecimal rank).toBinary64.rank = rank := by
  obtain ⟨lowest, lowest_eq⟩ : ∃ lowest, lowest = 1074 := ⟨_, rfl⟩
  have exact_eq : exactDecimal rank = ⟨units rank * Nat.pow 5 lowest, -(lowest : Int)⟩ := by
    have exponent : (-1074 : Int) = -(lowest : Int) := by rw [lowest_eq]; rfl
    have fives : Nat.pow 5 1074 = Nat.pow 5 lowest := congrArg _ lowest_eq.symm
    rw [exactDecimal, exponent, fives]
  rw [exact_eq, Decimal.toBinary64, Decimal.numerator_neg, Decimal.denominator_neg]
  show min (nearestRank _ _) infinityRank = rank
  rw [nearestRank_pow_ten, nearestRank_units lowest_eq finite, Nat.min_eq_left finite.le]

/-- A double of positive sign is told by its rank. -/
theorem eq_ofRank {x : Binary64} {rank : Nat} (sign : x.negative = false) (same : x.rank = rank)
    (finite : rank < infinityRank) : x = ofRank false rank := by
  have kept : min rank infinityRank = rank := Nat.min_eq_left finite.le
  obtain ⟨negative, r, _⟩ := x
  simp only at sign same
  simp only [ofRank, kept, sign, same]

/-- **The shortest decimal of a finite rank denotes it.** -/
theorem toBinary64_shortest {rank : Nat} (finite : rank < infinityRank) :
    (shortest rank).toBinary64 = ofRank false rank := by
  rw [shortest, (Decimal.same_normalized _).toBinary64_eq]
  cases found : (decimalCandidates rank).find? (fun d => d.toBinary64.rank = rank) with
  | none => exact eq_ofRank rfl (rank_exactDecimal finite) finite
  | some d => exact eq_ofRank rfl (by simpa using List.find?_some found) finite

end Binary64

end LoxScan
