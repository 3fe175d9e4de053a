import Mathlib.Algebra.Order.Field.Basic
import Mathlib.Algebra.Order.Field.Power
import Mathlib.Algebra.Order.Ring.Rat
import Mathlib.Tactic.Linarith
import Mathlib.Tactic.NormNum
import Mathlib.Tactic.Ring
import Coursework.Numeral.Binary64

/-!
# Fractions and the numbers nearest to them

Binary64 numbers stand for fractions, and every operation on them rounds. This module says how far
off a rounded fraction is, and what rounding leaves alone: whole numbers of less than 53 bits are
exact, and a fraction is rounded to a number on its own side of each of them. A fraction below a
whole number stays strictly below it if its denominator is small enough
(`natCast_le_value_ofRatio_iff`), so comparing the rounded quotient is comparing the exact one.
-/

namespace Coursework.Numeral

section RoundHalfEven

variable {num den n : Nat}

theorem roundHalfEven_bounds (num : Nat) (positive : 0 < den) :
    2 * num ≤ 2 * (den * roundHalfEven num den) + den ∧
      2 * (den * roundHalfEven num den) ≤ 2 * num + den := by
  have split := Nat.div_add_mod num den
  have less := Nat.mod_lt num positive
  have even : den * (num / den + num / den % 2) ≤ den * (num / den) + den := by
    have parity : num / den % 2 ≤ 1 := by omega
    calc den * (num / den + num / den % 2) ≤ den * (num / den + 1) :=
          Nat.mul_le_mul_left den (Nat.add_le_add_left parity _)
      _ = den * (num / den) + den := Nat.mul_succ _ _
  have next : den * (num / den + 1) = den * (num / den) + den := Nat.mul_succ _ _
  have least : den * (num / den) ≤ den * (num / den + num / den % 2) :=
    Nat.mul_le_mul_left _ (Nat.le_add_right _ _)
  unfold roundHalfEven
  dsimp only
  split_ifs with below above
  · omega
  · omega
  · omega

/-- The rounded number is at most one half away. -/
theorem abs_roundHalfEven_sub_le (num : Nat) (positive : 0 < den) :
    |(roundHalfEven num den : ℚ) - num / den| ≤ 1 / 2 := by
  obtain ⟨lower, upper⟩ := roundHalfEven_bounds num positive
  have denPositive : (0 : ℚ) < den := by exact_mod_cast positive
  have lower' : (2 : ℚ) * num ≤ 2 * (den * roundHalfEven num den) + den := by exact_mod_cast lower
  have upper' : (2 : ℚ) * (den * roundHalfEven num den) ≤ 2 * num + den := by exact_mod_cast upper
  have exact : (num : ℚ) / den * den = num := div_mul_cancel₀ _ denPositive.ne'
  rw [abs_le]
  constructor
  · nlinarith
  · nlinarith

/-- A whole number that is not above the fraction is not above the rounded one. -/
theorem le_roundHalfEven (positive : 0 < den) (below : (n : ℚ) ≤ num / den) :
    n ≤ roundHalfEven num den := by
  have close := (abs_le.mp (abs_roundHalfEven_sub_le num positive)).1
  have less : (n : ℚ) < (roundHalfEven num den + 1 : Nat) := by
    push_cast
    linarith
  exact Nat.lt_succ_iff.mp (by exact_mod_cast less)

theorem roundHalfEven_le (positive : 0 < den) (above : (num / den : ℚ) ≤ n) :
    roundHalfEven num den ≤ n := by
  have close := (abs_le.mp (abs_roundHalfEven_sub_le num positive)).2
  have less : (roundHalfEven num den : ℚ) < (n + 1 : Nat) := by
    push_cast
    linarith
  exact Nat.lt_succ_iff.mp (by exact_mod_cast less)

end RoundHalfEven

namespace Binary64

/-- The fraction that a number stands for. -/
def value (x : Binary64) : ℚ := x.mantissa * 2 ^ x.exponent

variable {num den n : Nat} {x y : Binary64}

theorem two_zpow_pos (e : Int) : (0 : ℚ) < 2 ^ e := zpow_pos two_pos e

/-- Shifting numerator or denominator is division by a power of two. -/
theorem shiftLeft_div_shiftLeft (num den : Nat) (e : Int) :
    ((num <<< (-e).toNat : Nat) : ℚ) / (den <<< e.toNat : Nat) = num / den / 2 ^ e := by
  simp only [Nat.shiftLeft_eq, Nat.cast_mul, Nat.cast_pow, Nat.cast_ofNat]
  obtain ⟨k, rfl | rfl⟩ := Int.eq_nat_or_neg e
  · simp [div_div]
  · rw [neg_neg, Int.toNat_natCast, Int.toNat_neg_natCast, zpow_neg, zpow_natCast, pow_zero,
      mul_one, div_inv_eq_mul, mul_div_right_comm]

theorem shiftLeft_pos (positive : 0 < n) (k : Nat) : 0 < n <<< k := by
  rw [Nat.shiftLeft_eq]
  exact Nat.mul_pos positive (Nat.two_pow_pos k)

theorem ratio_pos (x : Binary64) : 0 < x.ratio.2 := shiftLeft_pos Nat.one_pos _

theorem ratio_div (x : Binary64) : (x.ratio.1 : ℚ) / x.ratio.2 = x.value := by
  have shifted := shiftLeft_div_shiftLeft x.mantissa 1 (-x.exponent)
  rw [neg_neg] at shifted
  rw [ratio, value, shifted, Nat.cast_one, div_one, zpow_neg, div_inv_eq_mul]

@[simp] theorem value_zero : zero.value = 0 := by simp [value, zero]

/-- Numbers are compared by what they stand for. -/
theorem ble_iff : ble x y = true ↔ x.value ≤ y.value := by
  have xPositive : (0 : ℚ) < x.ratio.2 := by exact_mod_cast x.ratio_pos
  have yPositive : (0 : ℚ) < y.ratio.2 := by exact_mod_cast y.ratio_pos
  rw [ble, decide_eq_true_iff, ← ratio_div, ← ratio_div, div_le_div_iff₀ xPositive yPositive]
  exact_mod_cast Iff.rfl

/-- A fraction lies between powers of two that its numerator and denominator tell. -/
theorem two_zpow_lt_div (numPositive : 0 < num) (denPositive : 0 < den) :
    (2 : ℚ) ^ ((num.log2 : Int) - den.log2 - 1) < num / den ∧
      (num : ℚ) / den < 2 ^ ((num.log2 : Int) - den.log2 + 1) := by
  have numLower : (2 : ℚ) ^ num.log2 ≤ num := by exact_mod_cast Nat.log2_self_le numPositive.ne'
  have numUpper : (num : ℚ) < 2 ^ (num.log2 + 1) := by exact_mod_cast Nat.lt_log2_self
  have denLower : (2 : ℚ) ^ den.log2 ≤ den := by exact_mod_cast Nat.log2_self_le denPositive.ne'
  have denUpper : (den : ℚ) < 2 ^ (den.log2 + 1) := by exact_mod_cast Nat.lt_log2_self
  have denPositive' : (0 : ℚ) < den := by exact_mod_cast denPositive
  constructor
  · rw [lt_div_iff₀ denPositive']
    calc (2 : ℚ) ^ ((num.log2 : Int) - den.log2 - 1) * den
        < 2 ^ ((num.log2 : Int) - den.log2 - 1) * 2 ^ (den.log2 + 1) :=
          mul_lt_mul_of_pos_left denUpper (two_zpow_pos _)
      _ = 2 ^ num.log2 := by
          rw [← zpow_natCast, ← zpow_natCast, ← zpow_add₀ two_ne_zero]
          congr 1
          push_cast
          omega
      _ ≤ num := numLower
  · rw [div_lt_iff₀ denPositive']
    calc (num : ℚ) < 2 ^ (num.log2 + 1) := numUpper
      _ = 2 ^ ((num.log2 : Int) - den.log2 + 1) * 2 ^ den.log2 := by
          rw [← zpow_natCast, ← zpow_natCast, ← zpow_add₀ two_ne_zero]
          congr 1
          push_cast
          omega
      _ ≤ 2 ^ ((num.log2 : Int) - den.log2 + 1) * den :=
          mul_le_mul_of_nonneg_left denLower (two_zpow_pos _).le

/-- With the chosen exponent the mantissa has at most 53 bits, and as many unless the exponent is
the least one. -/
theorem exponentFor_bounds (numPositive : 0 < num) (denPositive : 0 < den) :
    (num : ℚ) / den < 2 ^ (exponentFor num den + 53) ∧
      (leastExponent < exponentFor num den →
        (2 : ℚ) ^ (exponentFor num den + 52) ≤ num / den) := by
  obtain ⟨lower, upper⟩ := two_zpow_lt_div numPositive denPositive
  set guess : Int := num.log2 - den.log2 - 52 with guessed
  have fits_iff : leastFull * (den <<< guess.toNat) ≤ num <<< (-guess).toNat ↔
      (2 : ℚ) ^ (guess + 52) ≤ num / den := by
    have shifted : (0 : ℚ) < (den <<< guess.toNat : Nat) := by
      exact_mod_cast shiftLeft_pos denPositive _
    have full : ((leastFull : Nat) : ℚ) = 2 ^ (52 : Int) := by norm_num [leastFull]
    rw [add_comm, zpow_add₀ two_ne_zero, ← le_div_iff₀ (two_zpow_pos guess),
      ← shiftLeft_div_shiftLeft, le_div_iff₀ shifted, ← full]
    exact_mod_cast Iff.rfl
  -- The exponent before it is bounded from below.
  have exact : ∃ e : Int, exponentFor num den = max e leastExponent ∧
      (2 : ℚ) ^ (e + 52) ≤ num / den ∧ (num : ℚ) / den < 2 ^ (e + 53) := by
    unfold exponentFor
    rw [← guessed]
    by_cases fits : leastFull * (den <<< guess.toNat) ≤ num <<< (-guess).toNat
    · refine ⟨guess, by simp [fits], fits_iff.mp fits, ?_⟩
      rwa [show guess + 53 = (num.log2 : Int) - den.log2 + 1 by omega]
    · refine ⟨guess - 1, by simp [fits], ?_, ?_⟩
      · rw [show guess - 1 + 52 = (num.log2 : Int) - den.log2 - 1 by omega]
        exact lower.le
      · rw [show guess - 1 + 53 = guess + 52 by omega]
        exact not_le.mp (mt fits_iff.mpr fits)
  obtain ⟨e, chosen, least, greatest⟩ := exact
  rw [chosen]
  constructor
  · refine greatest.trans_le (zpow_le_zpow_right₀ one_le_two ?_)
    omega
  · intro above
    rwa [max_eq_left (by omega)]

/-- The mantissa of the rounded fraction before a carry into the exponent. -/
def nearestMantissa (num den : Nat) : Nat :=
  roundHalfEven (num <<< (-exponentFor num den).toNat) (den <<< (exponentFor num den).toNat)

/-- A carry leaves the least mantissa of the next exponent. -/
theorem ofRatio_eq (den : Nat) (nonzero : num ≠ 0) :
    ofRatio num den = ⟨nearestMantissa num den, exponentFor num den⟩ ∨
      nearestMantissa num den = 2 * leastFull ∧
        ofRatio num den = ⟨leastFull, exponentFor num den + 1⟩ := by
  unfold ofRatio
  rw [if_neg nonzero]
  dsimp only
  rw [← nearestMantissa]
  split_ifs with carry
  · exact .inr ⟨carry, rfl⟩
  · exact .inl rfl

theorem value_ofRatio (nonzero : num ≠ 0) :
    (ofRatio num den).value = nearestMantissa num den * 2 ^ exponentFor num den := by
  rcases ofRatio_eq den nonzero with same | ⟨carry, same⟩
  · rw [same, value]
  · rw [same, carry, value, zpow_add_one₀ two_ne_zero]
    push_cast
    ring

theorem ofRatio_zero (den : Nat) : ofRatio 0 den = zero := if_pos rfl

theorem abs_nearestMantissa_sub_le (num : Nat) (positive : 0 < den) :
    |(nearestMantissa num den : ℚ) - num / den / 2 ^ exponentFor num den| ≤ 1 / 2 := by
  rw [← shiftLeft_div_shiftLeft]
  exact abs_roundHalfEven_sub_le _ (shiftLeft_pos positive _)

theorem le_nearestMantissa (positive : 0 < den)
    (below : n * 2 ^ exponentFor num den ≤ (num : ℚ) / den) : n ≤ nearestMantissa num den := by
  refine le_roundHalfEven (shiftLeft_pos positive _) ?_
  rwa [shiftLeft_div_shiftLeft, le_div_iff₀ (two_zpow_pos _)]

theorem nearestMantissa_le (positive : 0 < den)
    (above : (num : ℚ) / den ≤ n * 2 ^ exponentFor num den) : nearestMantissa num den ≤ n := by
  refine roundHalfEven_le (shiftLeft_pos positive _) ?_
  rwa [shiftLeft_div_shiftLeft, div_le_iff₀ (two_zpow_pos _)]

/-- A rounded fraction is off by at most half a unit in its last place. -/
theorem abs_value_ofRatio_sub_le (num : Nat) (positive : 0 < den) :
    |(ofRatio num den).value - num / den| ≤ 2 ^ exponentFor num den / 2 := by
  have unit := two_zpow_pos (exponentFor num den)
  by_cases nothing : num = 0
  · rw [nothing, ofRatio_zero, value_zero, Nat.cast_zero, zero_div, sub_zero, abs_zero]
    exact (half_pos (two_zpow_pos _)).le
  · rw [value_ofRatio nothing]
    calc |(nearestMantissa num den : ℚ) * 2 ^ exponentFor num den - num / den|
        = |(nearestMantissa num den : ℚ) - num / den / 2 ^ exponentFor num den| *
            2 ^ exponentFor num den := by
          rw [← abs_of_pos unit, ← abs_mul, abs_of_pos unit, sub_mul,
            div_mul_cancel₀ _ unit.ne']
      _ ≤ 1 / 2 * 2 ^ exponentFor num den :=
          mul_le_mul_of_nonneg_right (abs_nearestMantissa_sub_le num positive) unit.le
      _ = 2 ^ exponentFor num den / 2 := by ring

/-- A whole number of up to 53 bits is a multiple of every unit below one. -/
theorem natCast_eq_mul_zpow (n : Nat) {e : Int} (fine : e ≤ 0) :
    (n : ℚ) = (n * 2 ^ (-e).toNat : Nat) * 2 ^ e := by
  obtain ⟨k, rfl⟩ := Int.exists_eq_neg_ofNat fine
  rw [neg_neg, Int.toNat_natCast, Nat.cast_mul, Nat.cast_pow, Nat.cast_ofNat, zpow_neg,
    zpow_natCast, mul_assoc, mul_inv_cancel₀ (pow_ne_zero k two_ne_zero), mul_one]

/-- Where the unit is above one, the fraction has more than 53 bits. -/
theorem two_pow_le_div (numPositive : 0 < num) (denPositive : 0 < den)
    (coarse : 0 < exponentFor num den) : (2 : ℚ) ^ 53 ≤ num / den := by
  have above : leastExponent < exponentFor num den := lt_trans (by decide) coarse
  refine le_trans ?_ ((exponentFor_bounds numPositive denPositive).2 above)
  rw [← zpow_natCast]
  exact zpow_le_zpow_right₀ one_le_two (by omega)

/-- A rounded fraction is on the same side of a whole number of up to 53 bits. -/
theorem natCast_le_value_ofRatio (small : n < 2 ^ 53) (positive : 0 < den)
    (below : (n : ℚ) ≤ num / den) : n ≤ (ofRatio num den).value := by
  rcases Nat.eq_zero_or_pos num with rfl | numPositive
  · rw [ofRatio_zero, value_zero]
    simpa using below
  · rw [value_ofRatio numPositive.ne']
    have unit := two_zpow_pos (exponentFor num den)
    by_cases coarse : 0 < exponentFor num den
    · -- The mantissa is full, and so the number is greater than all of 53 bits.
      have full : (2 ^ 52 : Nat) ≤ nearestMantissa num den := by
        refine le_nearestMantissa positive ?_
        have bound := (exponentFor_bounds numPositive positive).2 (lt_trans (by decide) coarse)
        rw [zpow_add₀ two_ne_zero, mul_comm] at bound
        exact_mod_cast bound
      calc (n : ℚ) ≤ 2 ^ 52 * 2 ^ (1 : Int) := by exact_mod_cast small.le
        _ ≤ nearestMantissa num den * 2 ^ exponentFor num den := by
          refine mul_le_mul (by exact_mod_cast full) ?_ (two_zpow_pos _).le (Nat.cast_nonneg _)
          exact zpow_le_zpow_right₀ one_le_two (by omega)
    · rw [natCast_eq_mul_zpow n (not_lt.mp coarse)] at below ⊢
      refine mul_le_mul_of_nonneg_right ?_ unit.le
      exact_mod_cast le_nearestMantissa positive below

theorem value_ofRatio_le_natCast (small : n < 2 ^ 53) (positive : 0 < den)
    (above : (num : ℚ) / den ≤ n) : (ofRatio num den).value ≤ n := by
  rcases Nat.eq_zero_or_pos num with rfl | numPositive
  · rw [ofRatio_zero, value_zero]
    exact Nat.cast_nonneg n
  · rw [value_ofRatio numPositive.ne']
    have unit := two_zpow_pos (exponentFor num den)
    have fine : exponentFor num den ≤ 0 := by
      by_contra coarse
      have many := two_pow_le_div numPositive positive (not_le.mp coarse)
      have few : (n : ℚ) < 2 ^ 53 := by exact_mod_cast small
      linarith
    rw [natCast_eq_mul_zpow n fine] at above ⊢
    refine mul_le_mul_of_nonneg_right ?_ unit.le
    exact_mod_cast nearestMantissa_le positive above

/-- A fraction that is a whole number of up to 53 bits is not changed. -/
theorem value_ofRatio_of_whole (small : n < 2 ^ 53) (positive : 0 < den)
    (whole : (num : ℚ) / den = n) : (ofRatio num den).value = n :=
  le_antisymm (value_ofRatio_le_natCast small positive whole.le)
    (natCast_le_value_ofRatio small positive whole.ge)

theorem value_ofNat (small : n < 2 ^ 53) : (ofNat n).value = n :=
  value_ofRatio_of_whole small Nat.one_pos (by rw [Nat.cast_one, div_one])

/-- A sum is exact if it is a whole number of up to 53 bits. -/
theorem value_add (small : n < 2 ^ 53) (whole : x.value + y.value = n) : (x + y).value = n := by
  have xPositive : (x.ratio.2 : ℚ) ≠ 0 := by exact_mod_cast x.ratio_pos.ne'
  have yPositive : (y.ratio.2 : ℚ) ≠ 0 := by exact_mod_cast y.ratio_pos.ne'
  refine value_ofRatio_of_whole small (Nat.mul_pos x.ratio_pos y.ratio_pos) ?_
  rw [← whole, ← ratio_div, ← ratio_div, div_add_div _ _ xPositive yPositive]
  push_cast
  rw [mul_comm (x.ratio.2 : ℚ) y.ratio.1]

/-- The unit of the last place is bounded as the fraction is. -/
theorem two_zpow_exponentFor_le {bound : ℚ} (numPositive : 0 < num) (denPositive : 0 < den)
    (least : (2 : ℚ) ^ leastExponent ≤ bound) (bounded : (num : ℚ) / den ≤ bound * 2 ^ 52) :
    (2 : ℚ) ^ exponentFor num den ≤ bound := by
  by_cases above : leastExponent < exponentFor num den
  · have full := ((exponentFor_bounds numPositive denPositive).2 above).trans bounded
    rw [zpow_add₀ two_ne_zero] at full
    exact le_of_mul_le_mul_right (by exact_mod_cast full) (pow_pos two_pos 52)
  · exact (zpow_le_zpow_right₀ one_le_two (not_lt.mp above)).trans least

/-- A fraction below a whole number stays below it if 53 bits hold the number over the same
denominator. The two are apart by at least one over the denominator, and units are finer. -/
theorem value_ofRatio_lt_natCast {above below : Nat} (positive : 0 < den)
    (belowPositive : 0 < below) (same : (num : ℚ) / den = above / below)
    (few : n * below < 2 ^ 53) (less : above < n * below) : (ofRatio num den).value < n := by
  have belowPositive' : (0 : ℚ) < below := by exact_mod_cast belowPositive
  have one_le : 1 ≤ n := Nat.pos_of_mul_pos_right (Nat.zero_lt_of_lt less)
  have one_le' : (1 : ℚ) ≤ n := by exact_mod_cast one_le
  have apart : (num : ℚ) / den ≤ n - 1 / below := by
    rw [same, le_sub_iff_add_le, ← add_div, div_le_iff₀ belowPositive']
    exact_mod_cast less
  rcases Nat.eq_zero_or_pos num with rfl | numPositive
  · rw [ofRatio_zero, value_zero]
    exact_mod_cast one_le
  · have unit : (2 : ℚ) ^ exponentFor num den ≤ n / 2 ^ 52 := by
      refine two_zpow_exponentFor_le numPositive positive ?_ ?_
      · calc (2 : ℚ) ^ leastExponent ≤ 2 ^ (-52 : Int) :=
              zpow_le_zpow_right₀ one_le_two (by decide)
          _ ≤ n / 2 ^ 52 := by
              rw [zpow_neg, ← one_div]
              exact div_le_div_of_nonneg_right one_le' (by positivity)
      · rw [div_mul_cancel₀ _ (by positivity)]
        exact apart.trans (sub_le_self _ (by positivity))
    have finer : (n : ℚ) / 2 ^ 52 / 2 < 1 / below := by
      rw [div_div, div_lt_div_iff₀ (by positivity) belowPositive', one_mul]
      exact_mod_cast few
    have close := (abs_le.mp (abs_value_ofRatio_sub_le num positive)).2
    linarith

/-- Comparing a whole number with a rounded fraction is comparing it with the fraction. -/
theorem natCast_le_value_ofRatio_iff {above below : Nat} (positive : 0 < den)
    (belowPositive : 0 < below) (same : (num : ℚ) / den = above / below)
    (few : n * below < 2 ^ 53) :
    (n : ℚ) ≤ (ofRatio num den).value ↔ n * below ≤ above := by
  have belowPositive' : (0 : ℚ) < below := by exact_mod_cast belowPositive
  constructor
  · intro reached
    by_contra less
    have falls := value_ofRatio_lt_natCast positive belowPositive same few (not_le.mp less)
    exact absurd reached (not_le.mpr falls)
  · intro reached
    have small : n < 2 ^ 53 := lt_of_le_of_lt (Nat.le_mul_of_pos_right n belowPositive) few
    refine natCast_le_value_ofRatio small positive ?_
    rw [same, le_div_iff₀ belowPositive']
    exact_mod_cast reached

/-- The quotient of whole numbers is rounded once. -/
theorem exists_div_eq_ofRatio {above below : Nat} (aboveIs : x.value = above)
    (belowIs : y.value = below) (belowPositive : 0 < below) :
    ∃ num den : Nat, 0 < den ∧ (num : ℚ) / den = above / below ∧ x / y = ofRatio num den := by
  have xPositive : (0 : ℚ) < x.ratio.2 := by exact_mod_cast x.ratio_pos
  have yPositive : (0 : ℚ) < y.ratio.2 := by exact_mod_cast y.ratio_pos
  have yNumerator : 0 < y.ratio.1 := by
    have valuePositive : (0 : ℚ) < y.ratio.1 / y.ratio.2 := by
      rw [ratio_div, belowIs]
      exact_mod_cast belowPositive
    exact_mod_cast (div_pos_iff_of_pos_right yPositive).mp valuePositive
  refine ⟨_, _, Nat.mul_pos x.ratio_pos yNumerator, ?_, rfl⟩
  rw [← aboveIs, ← belowIs, ← ratio_div, ← ratio_div, div_div_div_eq]
  push_cast
  rfl

/-- The quotient of whole numbers reaches a whole number exactly if it does so without rounding. -/
theorem natCast_le_value_div_iff {above below : Nat} (aboveIs : x.value = above)
    (belowIs : y.value = below) (belowPositive : 0 < below) (few : n * below < 2 ^ 53) :
    (n : ℚ) ≤ (x / y).value ↔ n * below ≤ above := by
  obtain ⟨num, den, positive, same, quotient⟩ :=
    exists_div_eq_ofRatio aboveIs belowIs belowPositive
  rw [quotient]
  exact natCast_le_value_ofRatio_iff positive belowPositive same few

end Binary64

end Coursework.Numeral
