import LoxScan.Proofs.ReadBack
import Mathlib.Algebra.Order.Field.Basic
import Mathlib.Algebra.Order.Ring.Abs
import Mathlib.Data.Rat.Cast.Order
import Mathlib.Tactic.FieldSimp
import Mathlib.Tactic.Linarith
import Mathlib.Tactic.Positivity
import Mathlib.Tactic.Ring

/-!
# The nearest double

Rounding takes a fraction to the double that is nearest to it, and to the one with the even
significand if two are equally near.  What lies too far beyond the largest double becomes
infinity.

Counted in units of the smallest positive double, the finite doubles are the beginning of a grid
that has no end, and `units` goes up on all of it (`Binary64.strictMono_units`).  Rounding takes
place on the whole grid, as if exponents had no bound, and only then the finite ranks are cut
off.  So one fact decides all comparisons: the rank that a number is rounded to is above a given
rank if the number is beyond the middle between that rank and the next one
(`Binary64.IsNearest.lt_iff`).  At the middle itself parity decides.

## Main Definitions

* `Nearer` — the nearer one of two numbers around a number
* `Binary64.IsNearest` — the rank that is nearest to a number of units
* `Binary64.value` — the value of a finite double, from its significand and its exponent
* `Binary64.extendedValue` — the same with infinity above all others
* `Binary64.RoundsTo` — **a double is what a number is rounded to**
-/

namespace LoxScan

/-! ## Around the middle of two numbers -/

section Middle

variable {v a b : ℚ}

/-- The lower one of two numbers is the nearer one up to the middle between them. -/
theorem abs_sub_le_iff_le_middle (less : a < b) : |v - a| ≤ |v - b| ↔ 2 * v ≤ a + b := by
  have difference : (v - b) ^ 2 - (v - a) ^ 2 = (b - a) * (a + b - 2 * v) := by ring
  rw [← sq_le_sq, ← sub_nonneg, difference, mul_nonneg_iff_of_pos_left (sub_pos.mpr less),
    sub_nonneg]

/-- The upper one of two numbers is the nearer one from the middle on. -/
theorem abs_sub_le_iff_middle_le (less : a < b) : |v - b| ≤ |v - a| ↔ a + b ≤ 2 * v := by
  have difference : (v - a) ^ 2 - (v - b) ^ 2 = (b - a) * (2 * v - (a + b)) := by ring
  rw [← sq_le_sq, ← sub_nonneg, difference, mul_nonneg_iff_of_pos_left (sub_pos.mpr less),
    sub_nonneg]

theorem abs_sub_eq_iff_middle (less : a < b) : |v - a| = |v - b| ↔ 2 * v = a + b := by
  rw [le_antisymm_iff, le_antisymm_iff, abs_sub_le_iff_le_middle less,
    abs_sub_le_iff_middle_le less]

end Middle

/-- **The nearer one of two numbers** with a number between them.  If both are equally near, the
preferred one is taken. -/
structure Nearer (v lower upper nearer : ℚ) (preferred : Prop) : Prop where
  lower_le : lower ≤ v
  le_upper : v ≤ upper
  near_lower : |v - nearer| ≤ |v - lower|
  near_upper : |v - nearer| ≤ |v - upper|
  of_tie : |v - lower| = |v - upper| → preferred

/-- Scaling all numbers keeps what is nearer. -/
theorem Nearer.scale {v lower upper nearer factor : ℚ} {preferred : Prop}
    (h : Nearer v lower upper nearer preferred) (positive : 0 < factor) :
    Nearer (v * factor) (lower * factor) (upper * factor) (nearer * factor) preferred := by
  have distance : ∀ w, |v * factor - w * factor| = |v - w| * factor := by
    intro w
    rw [← sub_mul, abs_mul, abs_of_pos positive]
  refine ⟨mul_le_mul_of_nonneg_right h.lower_le positive.le,
    mul_le_mul_of_nonneg_right h.le_upper positive.le, ?_, ?_, ?_⟩
  · rw [distance, distance]
    exact mul_le_mul_of_nonneg_right h.near_lower positive.le
  · rw [distance, distance]
    exact mul_le_mul_of_nonneg_right h.near_upper positive.le
  · rw [distance, distance, mul_left_inj' positive.ne']
    exact h.of_tie

/-! ## Rounding to a whole number -/

/-- **Rounding a fraction** takes the nearer one of the two whole numbers around it, and the even
one if it is midway. -/
theorem roundHalfEven_nearer {num den : Nat} {v : ℚ} (positive : 0 < den) (value : v * den = num) :
    Nearer v (num / den : Nat) ((num / den : Nat) + 1) (roundHalfEven num den)
      (Even (roundHalfEven num den)) := by
  obtain ⟨floor, floor_eq⟩ : ∃ floor, floor = num / den := ⟨_, rfl⟩
  obtain ⟨rest, rest_eq⟩ : ∃ rest, rest = num % den := ⟨_, rfl⟩
  have rounded : roundHalfEven num den =
      if 2 * rest < den then floor
      else if den < 2 * rest then floor + 1 else floor + floor % 2 := by
    rw [floor_eq, rest_eq]
    rfl
  have den_pos : (0 : ℚ) < den := Nat.cast_pos.mpr positive
  have rest_lt : (rest : ℚ) < den := Nat.cast_lt.mpr (rest_eq ▸ Nat.mod_lt num positive)
  have excess : (v - floor) * den = rest := by
    rw [sub_mul, value, sub_eq_iff_eq_add, floor_eq, rest_eq]
    exact_mod_cast (Nat.mod_add_div' num den).symm
  have twice : 2 * (v - floor) * den = (2 * rest : Nat) := by
    rw [mul_assoc, excess, Nat.cast_mul, Nat.cast_ofNat]
  have above : 0 ≤ v - floor := nonneg_of_mul_nonneg_left (excess ▸ Nat.cast_nonneg _) den_pos
  have below : v - floor < 1 := lt_of_mul_lt_mul_right (by rwa [excess, one_mul]) den_pos.le
  have step : (floor : ℚ) < floor + 1 := lt_add_one _
  rw [← floor_eq]
  -- the remainder says on which side of the middle the fraction is
  rcases Nat.lt_trichotomy (2 * rest) den with less | middle | greater
  · have short : 2 * (v - floor) < 1 :=
      lt_of_mul_lt_mul_right (by rw [twice, one_mul]; exact Nat.cast_lt.mpr less) den_pos.le
    rw [rounded, if_pos less]
    refine ⟨by linarith, by linarith, le_rfl, ?_, fun tie => ?_⟩
    · exact (abs_sub_le_iff_le_middle step).mpr (by linarith)
    · have := (abs_sub_eq_iff_middle step).mp tie
      linarith
  · have half : 2 * (v - floor) = 1 :=
      mul_right_cancel₀ den_pos.ne' (by rw [twice, one_mul, middle])
    have tie : |v - floor| = |v - (floor + 1)| := (abs_sub_eq_iff_middle step).mpr (by linarith)
    rw [rounded, if_neg middle.not_lt, if_neg middle.not_gt]
    rcases Nat.mod_two_eq_zero_or_one floor with even | odd
    · rw [even, Nat.add_zero]
      exact ⟨by linarith, by linarith, le_rfl, tie.le, fun _ => Nat.even_iff.mpr even⟩
    · rw [odd, Nat.cast_succ]
      exact ⟨by linarith, by linarith, tie.ge, le_rfl,
        fun _ => Nat.even_add_one.mpr (Nat.not_even_iff.mpr odd)⟩
  · have long : 1 < 2 * (v - floor) :=
      lt_of_mul_lt_mul_right (by rw [twice, one_mul]; exact Nat.cast_lt.mpr greater) den_pos.le
    rw [rounded, if_neg (Nat.lt_asymm greater), if_pos greater, Nat.cast_succ]
    refine ⟨by linarith, by linarith, ?_, le_rfl, fun tie => ?_⟩
    · exact (abs_sub_le_iff_middle_le step).mpr (by linarith)
    · have := (abs_sub_eq_iff_middle step).mp tie
      linarith

namespace Binary64

/-! ## The grid of all ranks -/

/-- The rank of a significand in its block, also of the one that is carried into the next block. -/
theorem units_grid {significand spare : Nat} (fits : significand ≤ Nat.pow 2 53)
    (normal : Nat.pow 2 52 ≤ significand ∨ spare = 0) :
    units (significand + spare * Nat.pow 2 52) = significand * Nat.pow 2 spare := by
  have double : Nat.pow 2 53 = 2 * Nat.pow 2 52 := by decide
  have block : 0 < Nat.pow 2 52 := pow_two_pos 52
  by_cases small : significand < Nat.pow 2 52
  · -- only the ranks of the first block lack the leading bit
    obtain rfl : spare = 0 := normal.resolve_left (by omega)
    rw [Nat.zero_mul, Nat.add_zero, units, if_pos small]
    exact (Nat.mul_one _).symm
  · obtain ⟨more, rfl⟩ := Nat.exists_eq_add_of_le (Nat.le_of_not_lt small)
    rw [units, if_neg (by omega)]
    rcases Nat.lt_or_eq_of_le (show more ≤ Nat.pow 2 52 by omega) with inside | rfl
    · have split : Nat.pow 2 52 + more + spare * Nat.pow 2 52 =
          more + Nat.pow 2 52 * (spare + 1) := by ring
      rw [split, Nat.add_mul_mod_self_left, Nat.mod_eq_of_lt inside,
        Nat.add_mul_div_left _ _ block, Nat.div_eq_of_lt inside, Nat.zero_add, Nat.add_sub_cancel]
    · have split : Nat.pow 2 52 + Nat.pow 2 52 + spare * Nat.pow 2 52 =
          Nat.pow 2 52 * (spare + 2) := by ring
      rw [split, Nat.mul_mod_right, Nat.mul_div_cancel_left _ block]
      show (Nat.pow 2 52 + 0) * (Nat.pow 2 spare * 2) = _
      ring

/-- Every rank is that of a significand in some block. -/
theorem exists_grid (rank : Nat) :
    ∃ significand spare, rank = significand + spare * Nat.pow 2 52 ∧
      significand < Nat.pow 2 53 ∧ (Nat.pow 2 52 ≤ significand ∨ spare = 0) := by
  have double : Nat.pow 2 53 = 2 * Nat.pow 2 52 := by decide
  have whole := Nat.div_add_mod rank (Nat.pow 2 52)
  have inside : rank % Nat.pow 2 52 < Nat.pow 2 52 := Nat.mod_lt _ (pow_two_pos 52)
  cases block : rank / Nat.pow 2 52 with
  | zero =>
    rw [block] at whole
    exact ⟨rank, 0, by omega, by omega, .inr rfl⟩
  | succ spare =>
    rw [block, Nat.mul_comm, Nat.add_mul, Nat.one_mul] at whole
    exact ⟨Nat.pow 2 52 + rank % Nat.pow 2 52, spare, by omega, by omega, .inl (by omega)⟩

/-- **Larger ranks count more units.** -/
theorem strictMono_units : StrictMono units := by
  refine strictMono_nat_of_lt_succ fun rank => ?_
  obtain ⟨significand, spare, rfl, fits, normal⟩ := exists_grid rank
  have next : units (significand + 1 + spare * Nat.pow 2 52) =
      (significand + 1) * Nat.pow 2 spare := units_grid fits (normal.imp_left Nat.le_succ_of_le)
  rw [Nat.add_right_comm, next, units_grid fits.le normal]
  exact Nat.mul_lt_mul_of_pos_right (Nat.lt_succ_self _) (pow_two_pos spare)

theorem cast_units_lt {rank other : Nat} (less : rank < other) :
    (units rank : ℚ) < units other := Nat.cast_lt.mpr (strictMono_units less)

theorem cast_units_le {rank other : Nat} (le : rank ≤ other) :
    (units rank : ℚ) ≤ units other := Nat.cast_le.mpr (strictMono_units.monotone le)

/-! ## The nearest rank -/

/-- **The rank that is nearest to a number of units**: none is nearer, and it is even if another
one is as near. -/
structure IsNearest (v : ℚ) (rank : Nat) : Prop where
  nearest : ∀ other, |v - units rank| ≤ |v - units other|
  even_of_tie : ∀ other, other ≠ rank → |v - units rank| = |v - units other| → Even rank

/-- The nearer one of two neighbours is nearest of all ranks. -/
theorem isNearest_of_nearer {v : ℚ} {rank nearer : Nat} (one : nearer = rank ∨ nearer = rank + 1)
    (h : Nearer v (units rank) (units (rank + 1)) (units nearer) (Even nearer)) :
    IsNearest v nearer := by
  have outside : ∀ other, other ≠ rank → other ≠ rank + 1 →
      |v - units nearer| < |v - units other| := by
    intro other below_differs above_differs
    have above := h.lower_le
    have below := h.le_upper
    rcases Nat.lt_or_gt_of_ne below_differs with less | greater
    · have := cast_units_lt less
      refine h.near_lower.trans_lt ?_
      rw [abs_of_nonneg (by linarith), abs_of_nonneg (by linarith)]
      linarith
    · have := cast_units_lt (show rank + 1 < other by omega)
      refine h.near_upper.trans_lt ?_
      rw [abs_of_nonpos (by linarith), abs_of_nonpos (by linarith)]
      linarith
  constructor
  · intro other
    by_cases is_lower : other = rank
    · exact is_lower ▸ h.near_lower
    by_cases is_upper : other = rank + 1
    · exact is_upper ▸ h.near_upper
    exact (outside other is_lower is_upper).le
  · intro other differ tie
    by_cases is_lower : other = rank
    · obtain rfl := one.resolve_left fun same => differ (is_lower.trans same.symm)
      exact h.of_tie (is_lower ▸ tie.symm)
    by_cases is_upper : other = rank + 1
    · obtain rfl := one.resolve_right fun same => differ (is_upper.trans same.symm)
      exact h.of_tie (is_upper ▸ tie)
    exact absurd tie (outside other is_lower is_upper).ne

namespace IsNearest

variable {v w : ℚ} {rank other : Nat}

/-- **The nearest rank is above another one** if the number is beyond the middle between that one
and the next, or in the middle and that one is odd. -/
theorem lt_iff (h : IsNearest v rank) (other : Nat) :
    other < rank ↔ (units other : ℚ) + units (other + 1) < 2 * v ∨
      ((units other : ℚ) + units (other + 1) = 2 * v ∧ Odd other) := by
  constructor
  · intro less
    have next := cast_units_le (Nat.succ_le_of_lt less)
    have beyond := (abs_sub_le_iff_middle_le (cast_units_lt less)).mp (h.nearest other)
    rcases eq_or_lt_of_le (show (units other : ℚ) + units (other + 1) ≤ 2 * v by linarith) with
      middle | further
    · -- the next rank is as near as the nearest one, so it is that one
      have same : units rank = units (other + 1) := Nat.cast_injective (R := ℚ) (by linarith)
      obtain rfl := strictMono_units.injective same
      have tie := (abs_sub_eq_iff_middle (cast_units_lt less)).mpr middle.symm
      have even := h.even_of_tie other less.ne tie.symm
      exact .inr ⟨middle, Nat.not_even_iff_odd.mp (Nat.even_add_one.mp even)⟩
    · exact .inl further
  · intro beyond
    by_contra not_less
    have less : rank < other + 1 := by omega
    have before := (abs_sub_le_iff_le_middle (cast_units_lt less)).mp (h.nearest (other + 1))
    have le := cast_units_le (Nat.le_of_not_lt not_less)
    rcases beyond with further | ⟨middle, odd⟩
    · linarith
    · have same : units rank = units other := Nat.cast_injective (R := ℚ) (by linarith)
      obtain rfl := strictMono_units.injective same
      have tie := (abs_sub_eq_iff_middle (cast_units_lt less)).mpr middle.symm
      exact absurd (h.even_of_tie (rank + 1) less.ne' tie) (Nat.not_even_iff_odd.mpr odd)

theorem lt_iff_of_odd (h : IsNearest v rank) (odd : Odd other) :
    other < rank ↔ (units other : ℚ) + units (other + 1) ≤ 2 * v := by
  rw [h.lt_iff, and_iff_left odd, ← le_iff_lt_or_eq]

theorem lt_iff_of_even (h : IsNearest v rank) (even : Even other) :
    other < rank ↔ (units other : ℚ) + units (other + 1) < 2 * v := by
  have not_odd : ¬ Odd other := Nat.not_odd_iff_even.mpr even
  rw [h.lt_iff, or_iff_left fun tie => not_odd tie.2]

/-- **Larger numbers have larger nearest ranks**, and so a number has only one. -/
theorem mono (h : IsNearest v rank) (h' : IsNearest w other) (le : v ≤ w) : rank ≤ other := by
  by_contra less
  have kept := mt (h'.lt_iff other).mpr (Nat.lt_irrefl other)
  rw [not_or, not_lt] at kept
  rcases (h.lt_iff other).mp (Nat.lt_of_not_le less) with further | ⟨middle, odd⟩
  · linarith
  · exact kept.2 ⟨by linarith, odd⟩

end IsNearest

/-! ## Rounding to a rank -/

/-- A scaled quotient has fifty-three bits, or all of its bits where there is no scale. -/
theorem quotient_fits (whole : Nat) :
    whole / Nat.pow 2 (whole.log2 - 52) < Nat.pow 2 53 ∧
      (Nat.pow 2 52 ≤ whole / Nat.pow 2 (whole.log2 - 52) ∨ whole.log2 - 52 = 0) := by
  have below : whole < 2 ^ (whole.log2 + 1) := Nat.lt_log2_self
  rcases Nat.lt_or_ge whole.log2 52 with short | long
  · have no_scale : whole.log2 - 52 = 0 := Nat.sub_eq_zero_of_le short.le
    rw [no_scale, show Nat.pow 2 0 = 1 from rfl, Nat.div_one]
    exact ⟨below.trans_le (Nat.pow_le_pow_right (by decide) (by omega)), .inr rfl⟩
  · have positive : whole ≠ 0 := by
      rintro rfl
      exact absurd long (by decide)
    have above : 2 ^ whole.log2 ≤ whole := Nat.log2_self_le positive
    obtain ⟨spare, bits⟩ := Nat.exists_eq_add_of_le long
    rw [bits, Nat.add_sub_cancel_left, Nat.div_lt_iff_lt_mul (pow_two_pos spare),
      Nat.le_div_iff_mul_le (pow_two_pos spare)]
    rw [bits, Nat.add_right_comm, Nat.pow_add] at below
    rw [bits, Nat.pow_add] at above
    exact ⟨below, .inl above⟩

/-- **Rounding the significand rounds to the nearest rank**, if the scale leaves the significand
its bits. -/
theorem isNearest_rounded {num den spare : Nat} (positive : 0 < den)
    (fits : num / (den * Nat.pow 2 spare) < Nat.pow 2 53)
    (normal : Nat.pow 2 52 ≤ num / (den * Nat.pow 2 spare) ∨ spare = 0) :
    IsNearest ((num : ℚ) / den)
      (roundHalfEven num (den * Nat.pow 2 spare) + spare * Nat.pow 2 52) := by
  obtain ⟨scale, scale_eq⟩ : ∃ scale : ℚ, scale = 2 ^ spare := ⟨_, rfl⟩
  have scale_pos : 0 < scale := by rw [scale_eq]; positivity
  have cast_scale : ((Nat.pow 2 spare : Nat) : ℚ) = scale := scale_eq ▸ Nat.cast_pow 2 spare
  have grid_pos : 0 < den * Nat.pow 2 spare := Nat.mul_pos positive (pow_two_pos spare)
  have whole : (num : ℚ) / den / scale * (den * Nat.pow 2 spare : Nat) = num := by
    have nonzero : (den : ℚ) ≠ 0 := Nat.cast_ne_zero.mpr positive.ne'
    rw [Nat.cast_mul, cast_scale]
    field_simp
  have nearer := (roundHalfEven_nearer grid_pos whole).scale scale_pos
  have one := roundHalfEven_eq_or num (den * Nat.pow 2 spare)
  obtain ⟨floor, floor_eq⟩ : ∃ floor, floor = num / (den * Nat.pow 2 spare) := ⟨_, rfl⟩
  obtain ⟨rounded, rounded_eq⟩ : ∃ rounded, rounded = roundHalfEven num (den * Nat.pow 2 spare) :=
    ⟨_, rfl⟩
  rw [← floor_eq] at fits normal
  rw [← floor_eq, ← rounded_eq] at one nearer
  rw [div_mul_cancel₀ _ scale_pos.ne'] at nearer
  rw [← rounded_eq]
  have counted : ∀ significand, floor ≤ significand → significand ≤ floor + 1 →
      (significand : ℚ) * scale = units (significand + spare * Nat.pow 2 52) := by
    intro significand large small
    rw [units_grid (small.trans fits) (normal.imp_left large.trans'), Nat.cast_mul, cast_scale]
  have blocks : Even (spare * Nat.pow 2 52) := Even.mul_left (by decide) spare
  have neighbours : rounded + spare * Nat.pow 2 52 = floor + spare * Nat.pow 2 52 ∨
      rounded + spare * Nat.pow 2 52 = floor + spare * Nat.pow 2 52 + 1 := by omega
  refine isNearest_of_nearer neighbours ?_
  rw [Nat.add_right_comm, ← counted floor le_rfl (by omega),
    ← counted (floor + 1) (by omega) le_rfl, ← counted rounded (by omega) (by omega),
    Nat.cast_succ, Nat.even_add, iff_true_right blocks]
  exact nearer

/-- **Rounding a fraction** finds the nearest rank, and cuts it off at infinity. -/
theorem exists_isNearest (num : Nat) {den lowest : Nat} (positive : 0 < den)
    (lowest_eq : lowest = 1074) :
    ∃ rank, IsNearest ((num : ℚ) / den * 2 ^ lowest) rank ∧
      (nearest num den).rank = min rank infinityRank := by
  obtain ⟨fits, normal⟩ := quotient_fits (num * Nat.pow 2 lowest / den)
  rw [Nat.div_div_eq_div_mul] at fits normal
  have cut_off : (nearest num den).rank = min (nearestRank num den) infinityRank := rfl
  rw [nearestRank_eq lowest_eq, Nat.min_assoc, Nat.min_self] at cut_off
  refine ⟨_, ?_, cut_off⟩
  have counted : ((num * Nat.pow 2 lowest : Nat) : ℚ) / den = num / den * 2 ^ lowest := by
    rw [Nat.cast_mul, mul_div_right_comm]
    exact congrArg _ (Nat.cast_pow 2 lowest)
  exact counted ▸ isNearest_rounded positive fits normal

/-- Larger fractions are rounded to larger ranks. -/
theorem rank_nearest_mono {num den num' den' : Nat} (positive : 0 < den) (positive' : 0 < den')
    (le : (num : ℚ) / den ≤ (num' : ℚ) / den') :
    (nearest num den).rank ≤ (nearest num' den').rank := by
  obtain ⟨lowest, lowest_eq⟩ : ∃ lowest, lowest = 1074 := ⟨_, rfl⟩
  obtain ⟨rank, isNearest, rank_eq⟩ := exists_isNearest num positive lowest_eq
  obtain ⟨rank', isNearest', rank_eq'⟩ := exists_isNearest num' positive' lowest_eq
  have unit_pos : (0 : ℚ) < 2 ^ lowest := by positivity
  rw [rank_eq, rank_eq']
  exact min_le_min_right _
    (isNearest.mono isNearest' (mul_le_mul_of_nonneg_right le unit_pos.le))

/-! ## The ends of the finite ranks -/

/-- The middle between the last finite rank and the one behind it, where infinity is. -/
theorem units_last_add_infinity {lowest half : Nat} (lowest_eq : lowest = 1074)
    (half_eq : half = 970) :
    (units (infinityRank - 1) : ℚ) + units infinityRank =
      2 * ((2 ^ (half + 54) - 2 ^ half) * 2 ^ lowest) := by
  have blocks : infinityRank = Nat.pow 2 53 + 2045 * Nat.pow 2 52 := by decide
  have scale : 2045 = half + 1 + lowest := by omega
  have before : Nat.pow 2 53 + (half + 1 + lowest) * Nat.pow 2 52 - 1 =
      Nat.pow 2 53 - 1 + (half + 1 + lowest) * Nat.pow 2 52 :=
    Nat.sub_add_comm (pow_two_pos 53)
  have carry : ((Nat.pow 2 53 : Nat) : ℚ) = 2 ^ 53 := Nat.cast_pow 2 53
  have cast_scale : ((Nat.pow 2 (half + 1 + lowest) : Nat) : ℚ) = 2 ^ (half + 1 + lowest) :=
    Nat.cast_pow 2 _
  rw [blocks, scale, before, units_grid (Nat.sub_le _ _) (.inl (by decide)),
    units_grid le_rfl (.inl (by decide)), Nat.cast_mul, Nat.cast_mul,
    Nat.cast_sub (pow_two_pos 53), carry, cast_scale, Nat.cast_one, pow_add, pow_add, pow_add]
  ring

namespace IsNearest

variable {v : ℚ} {rank lowest half : Nat}

/-- The nearest rank is finite up to the middle between the last finite one and the next. -/
theorem lt_infinityRank_iff (lowest_eq : lowest = 1074) (half_eq : half = 970)
    (h : IsNearest (v * 2 ^ lowest) rank) :
    rank < infinityRank ↔ v < 2 ^ (half + 54) - 2 ^ half := by
  have unit_pos : (0 : ℚ) < 2 ^ lowest := by positivity
  have last_odd : Odd (infinityRank - 1) := by decide
  have last : infinityRank - 1 + 1 = infinityRank := by decide
  have beyond := not_congr (h.lt_iff_of_odd last_odd)
  rw [last, units_last_add_infinity lowest_eq half_eq, not_le, Nat.not_lt,
    ← Nat.lt_succ_iff, Nat.succ_eq_add_one, last] at beyond
  rw [beyond, mul_lt_mul_iff_right₀ two_pos, mul_lt_mul_iff_left₀ unit_pos]

/-- The nearest rank is zero up to half of a unit. -/
theorem eq_zero_iff (h : IsNearest (v * 2 ^ lowest) rank) :
    rank = 0 ↔ v ≤ 1 / 2 ^ (lowest + 1) := by
  have first : units 0 = 0 ∧ units 1 = 1 := by decide
  have below := not_congr (h.lt_iff_of_even Even.zero)
  rw [Nat.not_lt, Nat.le_zero, first.1, first.2, Nat.cast_zero, Nat.cast_one, zero_add,
    not_lt] at below
  rw [below, le_div_iff₀ (by positivity), pow_succ, mul_left_comm, mul_comm 2]

end IsNearest

/-! ## Values -/

/-- The significand of a finite double, a whole number of at most fifty-three bits.  Only the
smallest doubles have no leading bit. -/
def significand (x : Binary64) : Nat :=
  if x.rank / Nat.pow 2 52 = 0 then x.rank % Nat.pow 2 52
  else Nat.pow 2 52 + x.rank % Nat.pow 2 52

/-- The exponent of a finite double. -/
def exponent (x : Binary64) : Int := max (x.rank / Nat.pow 2 52 : Nat) 1 - 1075

/-- The value of a finite double without its sign. -/
def magnitude (x : Binary64) : ℚ := x.significand * 2 ^ x.exponent

/-- The value of a finite double. -/
def value (x : Binary64) : ℚ := if x.negative then -x.magnitude else x.magnitude

/-- The value of a double that is a number, with infinity above all others. -/
def extendedValue (x : Binary64) : WithTop ℚ := if x.isFinite then x.value else ⊤

theorem magnitude_nonneg (x : Binary64) : 0 ≤ x.magnitude :=
  mul_nonneg (Nat.cast_nonneg _) (zpow_nonneg two_pos.le _)

theorem magnitude_zero : zero.magnitude = 0 := by
  rw [magnitude, show zero.significand = 0 by decide, Nat.cast_zero, zero_mul]

/-- Significand and exponent make up the units that the rank counts. -/
theorem magnitude_eq (x : Binary64) {lowest : Nat} (lowest_eq : lowest = 1074) :
    x.magnitude = units x.rank / 2 ^ lowest := by
  cases block : x.rank / Nat.pow 2 52 with
  | zero =>
    have small : x.rank < Nat.pow 2 52 := (Nat.div_eq_zero_iff_lt (pow_two_pos 52)).mp block
    have exponent_eq : x.exponent = -(lowest : Int) := by
      rw [exponent, block, lowest_eq]
      rfl
    rw [magnitude, significand, if_pos block, exponent_eq, units, if_pos small,
      Nat.mod_eq_of_lt small, zpow_neg, zpow_natCast, div_eq_mul_inv]
  | succ spare =>
    have large : ¬ x.rank < Nat.pow 2 52 := fun small =>
      Nat.succ_ne_zero spare (block.symm.trans (Nat.div_eq_of_lt small))
    have exponent_eq : x.exponent = (spare : Int) - lowest := by
      rw [exponent, block, lowest_eq]
      omega
    have scale : ((Nat.pow 2 spare : Nat) : ℚ) = 2 ^ spare := Nat.cast_pow 2 spare
    rw [magnitude, significand, if_neg (by omega), exponent_eq, units, if_neg large, block,
      Nat.add_sub_cancel, Nat.cast_mul, scale, zpow_sub₀ two_ne_zero, zpow_natCast, zpow_natCast,
      mul_div_assoc]

/-- The last bit of the significand is that of the rank. -/
theorem even_significand_iff (x : Binary64) : Even x.significand ↔ Even x.rank := by
  have even_block : Even (Nat.pow 2 52) := by decide
  have rank_iff : Even x.rank ↔ Even (x.rank % Nat.pow 2 52) := by
    conv_lhs => rw [← Nat.div_add_mod x.rank (Nat.pow 2 52)]
    rw [Nat.even_add, iff_true_left (even_block.mul_right _)]
  rw [significand, rank_iff]
  split_ifs
  · exact Iff.rfl
  · rw [Nat.even_add, iff_true_left even_block]

/-- Without a sign, the value of a double is its magnitude. -/
theorem value_eq_magnitude {x : Binary64} (sign : x.negative = false) : x.value = x.magnitude := by
  rw [value, sign, if_neg Bool.false_ne_true]

/-- Doubles without a sign are ordered as their ranks. -/
theorem value_lt_value {x y : Binary64} (sign : x.negative = false) (sign' : y.negative = false)
    (less : x.rank < y.rank) : x.value < y.value := by
  obtain ⟨lowest, lowest_eq⟩ : ∃ lowest, lowest = 1074 := ⟨_, rfl⟩
  rw [value_eq_magnitude sign, value_eq_magnitude sign', x.magnitude_eq lowest_eq,
    y.magnitude_eq lowest_eq]
  exact div_lt_div_of_pos_right (cast_units_lt less) (by positivity)

/-- A double without a sign is told by its rank. -/
theorem eq_of_rank_eq {x y : Binary64} (sign : x.negative = false) (sign' : y.negative = false)
    (same : x.rank = y.rank) : x = y := by
  obtain ⟨negative, rank, _⟩ := x
  obtain ⟨negative', rank', _⟩ := y
  simp only at sign sign' same
  simp only [sign, sign', same]

/-- Also with infinity, doubles without a sign are ordered as their ranks. -/
theorem extendedValue_mono {x y : Binary64} (sign : x.negative = false)
    (sign' : y.negative = false) (le : x.rank ≤ y.rank) : x.extendedValue ≤ y.extendedValue := by
  rcases Nat.eq_or_lt_of_le le with same | less
  · rw [eq_of_rank_eq sign sign' same]
  cases finite : y.isFinite with
  | false =>
    rw [extendedValue, extendedValue, finite, if_neg Bool.false_ne_true]
    exact le_top
  | true =>
    have finite' : x.isFinite = true := by
      rw [isFinite, decide_eq_true_iff] at finite ⊢
      exact less.trans finite
    rw [extendedValue, extendedValue, finite, finite', if_pos rfl, if_pos rfl, WithTop.coe_le_coe]
    exact (value_lt_value sign sign' less).le

/-! ## The nearest double -/

/-- **A double is what a number is rounded to**, if the number is not negative.  It is infinity
from the middle between the largest finite double and the power of two behind it on.  Otherwise no
finite double is nearer to the number, and its significand is even if one of another value is as
near. -/
structure RoundsTo (x : Binary64) (v : ℚ) : Prop where
  isNaN_eq : x.isNaN = false
  negative_eq : x.negative = false
  isFinite_iff : x.isFinite = true ↔ v < 2 ^ 1024 - 2 ^ 970
  nearest : x.isFinite = true → ∀ y : Binary64, y.isFinite = true →
    |v - x.value| ≤ |v - y.value|
  even_of_tie : x.isFinite = true → ∀ y : Binary64, y.isFinite = true → y.value ≠ x.value →
    |v - x.value| = |v - y.value| → Even x.significand

namespace RoundsTo

variable {x y : Binary64} {v : ℚ}

/-- Only the rank of infinity is left for what is not finite. -/
theorem rank_eq_infinityRank (rounded : x.RoundsTo v) (infinite : x.isFinite = false) :
    x.rank = infinityRank := by
  have not_above := rounded.isNaN_eq
  rw [isNaN, decide_eq_false_iff_not, Nat.not_lt] at not_above
  rw [isFinite, decide_eq_false_iff_not, Nat.not_lt] at infinite
  exact Nat.le_antisymm not_above infinite

/-- Of two finite doubles that a number is rounded to, none has the larger rank. -/
theorem rank_le (rounded : x.RoundsTo v) (rounded' : y.RoundsTo v) (finite : x.isFinite = true)
    (finite' : y.isFinite = true) : y.rank ≤ x.rank := by
  by_contra not_le
  have less : x.rank < y.rank := Nat.lt_of_not_le not_le
  have below := value_lt_value rounded.negative_eq rounded'.negative_eq less
  have tie : |v - x.value| = |v - y.value| :=
    le_antisymm (rounded.nearest finite y finite') (rounded'.nearest finite' x finite)
  have even := (even_significand_iff x).mp (rounded.even_of_tie finite y finite' below.ne' tie)
  have even' :=
    (even_significand_iff y).mp (rounded'.even_of_tie finite' x finite below.ne tie.symm)
  -- ranks of the same parity leave room for a double that is nearer than both
  have room : x.rank + 1 < y.rank := by
    obtain ⟨half, half_eq⟩ := even
    obtain ⟨half', half_eq'⟩ := even'
    omega
  rw [isFinite, decide_eq_true_iff] at finite'
  have between : (ofRank false (x.rank + 1)).rank = x.rank + 1 :=
    Nat.min_eq_left (room.trans finite').le
  have between_finite : (ofRank false (x.rank + 1)).isFinite = true := by
    rw [isFinite, decide_eq_true_iff, between]
    exact room.trans finite'
  have above := value_lt_value rounded.negative_eq (y := ofRank false (x.rank + 1)) rfl
    (by rw [between]; exact Nat.lt_succ_self _)
  have under := value_lt_value (x := ofRank false (x.rank + 1)) rfl rounded'.negative_eq
    (by rwa [between])
  have middle := (abs_sub_eq_iff_middle below).mp tie
  have before := (abs_sub_le_iff_le_middle above).mp (rounded.nearest finite _ between_finite)
  linarith

/-- **A number is rounded to one double only.** -/
theorem unique (rounded : x.RoundsTo v) (rounded' : y.RoundsTo v) : x = y := by
  refine eq_of_rank_eq rounded.negative_eq rounded'.negative_eq ?_
  have both : y.isFinite = x.isFinite := by
    rw [Bool.eq_iff_iff, rounded.isFinite_iff, rounded'.isFinite_iff]
  cases finite : x.isFinite with
  | true =>
    exact Nat.le_antisymm (rounded'.rank_le rounded (both.trans finite) finite)
      (rounded.rank_le rounded' finite (both.trans finite))
  | false =>
    rw [rounded.rank_eq_infinityRank finite, rounded'.rank_eq_infinityRank (both.trans finite)]

end RoundsTo

/-- The nearest rank, cut off at infinity, is that of the double that a number is rounded to. -/
theorem IsNearest.roundsTo {v : ℚ} {x : Binary64} {rank lowest half : Nat}
    (lowest_eq : lowest = 1074) (half_eq : half = 970) (nonneg : 0 ≤ v)
    (h : IsNearest (v * 2 ^ lowest) rank) (sign : x.negative = false)
    (rank_eq : x.rank = min rank infinityRank) : x.RoundsTo v := by
  have unit_pos : (0 : ℚ) < 2 ^ lowest := by positivity
  have value_eq := value_eq_magnitude sign
  have finite_iff : x.isFinite = true ↔ rank < infinityRank := by
    rw [isFinite, decide_eq_true_iff, rank_eq, min_lt_iff, or_iff_left (Nat.lt_irrefl _)]
  have same (finite : x.isFinite = true) : x.rank = rank :=
    rank_eq.trans (Nat.min_eq_left (finite_iff.mp finite).le)
  have distance : ∀ y : Binary64,
      |v * 2 ^ lowest - units y.rank| = |v - y.magnitude| * 2 ^ lowest := by
    intro y
    rw [y.magnitude_eq lowest_eq, ← abs_of_pos unit_pos, ← abs_mul, abs_of_pos unit_pos, sub_mul,
      div_mul_cancel₀ _ unit_pos.ne']
  have near (finite : x.isFinite = true) (y : Binary64) :
      |v - x.magnitude| ≤ |v - y.magnitude| := by
    refine le_of_mul_le_mul_right ?_ unit_pos
    rw [← distance, ← distance, same finite]
    exact h.nearest y.rank
  -- a sign only takes a double further away
  have signed : ∀ y : Binary64, |v - y.magnitude| ≤ |v - y.value| := by
    intro y
    have := y.magnitude_nonneg
    rw [value]
    split_ifs
    · rw [sub_neg_eq_add, abs_of_nonneg (add_nonneg nonneg this), abs_le]
      constructor <;> linarith
    · exact le_rfl
  refine ⟨?_, sign, ?_, ?_, ?_⟩
  · rw [isNaN, decide_eq_false_iff_not, Nat.not_lt, rank_eq]
    exact Nat.min_le_right _ _
  · rw [finite_iff, h.lt_infinityRank_iff lowest_eq half_eq, half_eq]
  · intro finite y _
    rw [value_eq]
    exact (near finite y).trans (signed y)
  · intro finite y _ differ tie
    rw [value_eq] at differ tie
    -- one with a sign is as near only if it is zero
    have at_zero := near finite zero
    rw [magnitude_zero, sub_zero, abs_of_nonneg nonneg] at at_zero
    have unsigned : y.value = y.magnitude := by
      rw [value] at tie ⊢
      split_ifs at tie ⊢
      · have := y.magnitude_nonneg
        rw [sub_neg_eq_add, abs_of_nonneg (add_nonneg nonneg this)] at tie
        linarith
      · rfl
    rw [unsigned] at differ tie
    rw [even_significand_iff, same finite]
    refine h.even_of_tie y.rank (fun rank_same => differ ?_) ?_
    · rw [y.magnitude_eq lowest_eq, x.magnitude_eq lowest_eq, rank_same, same finite]
    · rw [← same finite, distance, distance, tie]

/-- **A fraction is rounded to the nearest double.** -/
theorem roundsTo_nearest (num : Nat) {den : Nat} (positive : 0 < den) :
    (nearest num den).RoundsTo ((num : ℚ) / den) := by
  obtain ⟨lowest, lowest_eq⟩ : ∃ lowest, lowest = 1074 := ⟨_, rfl⟩
  obtain ⟨half, half_eq⟩ : ∃ half, half = 970 := ⟨_, rfl⟩
  obtain ⟨rank, isNearest, rank_eq⟩ := exists_isNearest num positive lowest_eq
  exact isNearest.roundsTo lowest_eq half_eq (by positivity) rfl rank_eq

/-- A fraction is rounded to zero up to half of the smallest positive double. -/
theorem nearest_eq_zero_iff (num : Nat) {den : Nat} (positive : 0 < den) :
    nearest num den = zero ↔ (num : ℚ) / den ≤ 1 / 2 ^ 1075 := by
  obtain ⟨lowest, lowest_eq⟩ : ∃ lowest, lowest = 1074 := ⟨_, rfl⟩
  obtain ⟨rank, isNearest, rank_eq⟩ := exists_isNearest num positive lowest_eq
  have last : 1075 = lowest + 1 := by rw [lowest_eq]
  have infinity_pos : 0 < infinityRank := by decide
  rw [last, ← isNearest.eq_zero_iff]
  constructor
  · intro is_zero
    have none : min rank infinityRank = 0 := by
      rw [← rank_eq, is_zero]
      rfl
    omega
  · rintro rfl
    exact eq_ofRank rfl (rank_eq.trans (Nat.zero_min _)) infinity_pos

end Binary64

end LoxScan
