import Coursework.Numeral.Shortest
import Coursework.Proofs.NearestFractions

/-!
# Decimals in the interval of a number

`Covers` says that a fraction lies in the interval of a binary number. Every fraction lies in the
interval of the number it is rounded to (`covers_ofRatio`), and an interval is no wider than the
unit of the last place (`Covers.abs_sub_le`).

The decimal that stands for a number is the first that the search from coarse grids to fine ones
finds (`IsFirst`). So where a decimal with few places is rounded, it is found again: the grid of
its places has no other point in the interval, and coarser grids have none but itself
(`IsFirst.coefficient_eq`).
-/

namespace Coursework.Numeral

variable {num den n : Nat}

/-- An odd number is not taken where another is equally near. -/
theorem roundHalfEven_bounds_of_odd (positive : 0 < den) (odd : roundHalfEven num den % 2 = 1) :
    2 * num < 2 * (den * roundHalfEven num den) + den ∧
      2 * (den * roundHalfEven num den) < 2 * num + den := by
  have split := Nat.div_add_mod num den
  have less := Nat.mod_lt num positive
  have next : den * (num / den + 1) = den * (num / den) + den := Nat.mul_succ _ _
  unfold roundHalfEven at odd ⊢
  dsimp only at odd ⊢
  split_ifs at odd ⊢ with below above
  · omega
  · omega
  · omega

theorem abs_roundHalfEven_sub_lt (positive : 0 < den) (odd : roundHalfEven num den % 2 = 1) :
    |(roundHalfEven num den : ℚ) - num / den| < 1 / 2 := by
  obtain ⟨lower, upper⟩ := roundHalfEven_bounds_of_odd positive odd
  have denPositive : (0 : ℚ) < den := by exact_mod_cast positive
  have lower' : (2 : ℚ) * num < 2 * (den * roundHalfEven num den) + den := by exact_mod_cast lower
  have upper' : (2 : ℚ) * (den * roundHalfEven num den) < 2 * num + den := by exact_mod_cast upper
  have exact : (num : ℚ) / den * den = num := div_mul_cancel₀ _ denPositive.ne'
  rw [abs_lt]
  constructor
  · nlinarith
  · nlinarith

/-- The fraction that a decimal stands for. -/
def Decimal.value (d : Decimal) : ℚ := d.coefficient * 10 ^ d.exponent

namespace Binary64

variable {x : Binary64} {y z : ℚ} {j k : Int} {tie : Tie} {d : Decimal}

/-- A fraction in quarters of the unit of the last place of a number. -/
def quarters (x : Binary64) (y : ℚ) : ℚ := y / 2 ^ (x.exponent - 2)

/-- A fraction lies in the interval of a number. -/
structure Covers (x : Binary64) (y : ℚ) : Prop where
  least : x.lowerQuarters ≤ x.quarters y
  greatest : x.quarters y ≤ x.upperQuarters
  /-- The ends belong to even mantissas. -/
  between : x.mantissa % 2 = 1 →
    x.lowerQuarters < x.quarters y ∧ x.quarters y < x.upperQuarters

theorem quarters_le_iff : x.quarters y ≤ x.quarters z ↔ y ≤ z :=
  div_le_div_iff_of_pos_right (two_zpow_pos _)

theorem quarters_mono (le : y ≤ z) : x.quarters y ≤ x.quarters z :=
  quarters_le_iff.mpr le

theorem quarters_eq (x : Binary64) (y : ℚ) : x.quarters y = 4 * (y / 2 ^ x.exponent) := by
  rw [quarters, zpow_sub₀ two_ne_zero]
  norm_num
  ring

theorem quarters_value (x : Binary64) : x.quarters x.value = 4 * x.mantissa := by
  rw [quarters_eq, value, mul_div_cancel_right₀ _ (two_zpow_pos _).ne']

theorem four_mul_le_lowerQuarters_add_two (x : Binary64) :
    4 * x.mantissa ≤ x.lowerQuarters + 2 := by
  unfold lowerQuarters
  split_ifs <;> omega

theorem lowerQuarters_lt (positive : 0 < x.mantissa) : x.lowerQuarters < 4 * x.mantissa := by
  unfold lowerQuarters
  split_ifs <;> omega

/-! ## Intervals -/

/-- What lies between two fractions of the interval lies in it. -/
theorem Covers.convex {middle : ℚ} (low : x.Covers y) (high : x.Covers z) (above : y ≤ middle)
    (below : middle ≤ z) : x.Covers middle where
  least := low.least.trans (quarters_mono above)
  greatest := (quarters_mono below).trans high.greatest
  between odd := ⟨(low.between odd).1.trans_le (quarters_mono above),
    (quarters_mono below).trans_lt (high.between odd).2⟩

theorem covers_value (positive : 0 < x.mantissa) : x.Covers x.value := by
  have low : (x.lowerQuarters : ℚ) < 4 * x.mantissa := by exact_mod_cast lowerQuarters_lt positive
  have high : (4 * x.mantissa : ℚ) < x.upperQuarters := by
    rw [upperQuarters]
    push_cast
    linarith
  rw [← quarters_value] at low high
  exact ⟨low.le, high.le, fun _ => ⟨low, high⟩⟩

/-- The interval is as wide as the unit of the last place at most. -/
theorem Covers.abs_sub_le (first : x.Covers y) (second : x.Covers z) :
    |y - z| ≤ 2 ^ x.exponent := by
  have width : (x.upperQuarters : ℚ) ≤ x.lowerQuarters + 4 := by
    have low := x.four_mul_le_lowerQuarters_add_two
    rw [upperQuarters]
    exact_mod_cast (by omega)
  have unit : (2 : ℚ) ^ x.exponent = 4 * 2 ^ (x.exponent - 2) := by
    rw [zpow_sub₀ two_ne_zero]
    ring
  have scaled : |x.quarters y - x.quarters z| ≤ 4 := by
    rw [abs_le]
    constructor
    · linarith [first.least, second.greatest]
    · linarith [second.least, first.greatest]
  rwa [quarters, quarters, ← sub_div, abs_div, abs_of_pos (two_zpow_pos _),
    div_le_iff₀ (two_zpow_pos _), ← unit] at scaled

/-- A number and what its interval covers lie between the same powers of two. -/
theorem Covers.bounds (covered : x.Covers y) (positive : 0 < x.mantissa) :
    (2 : ℚ) ^ ((x.mantissa.log2 : Int) + x.exponent - 1) ≤ y ∧
      y ≤ 2 ^ ((x.mantissa.log2 : Int) + x.exponent + 1) := by
  have atLeast := Nat.log2_self_le positive.ne'
  have below : x.mantissa < 2 ^ (x.mantissa.log2 + 1) := Nat.lt_log2_self
  have scale (e : Nat) : (2 : ℚ) ^ ((e : Int) + (x.exponent - 2)) =
      (2 ^ e : Nat) * 2 ^ (x.exponent - 2) := by
    rw [zpow_add₀ two_ne_zero, zpow_natCast, Nat.cast_pow, Nat.cast_ofNat]
  have low := (le_div_iff₀ (two_zpow_pos _)).mp covered.least
  have high := (div_le_iff₀ (two_zpow_pos _)).mp covered.greatest
  constructor
  · calc (2 : ℚ) ^ ((x.mantissa.log2 : Int) + x.exponent - 1)
        = (2 ^ (x.mantissa.log2 + 1) : Nat) * 2 ^ (x.exponent - 2) := by
          rw [← scale]
          congr 1
          push_cast
          ring
      _ ≤ x.lowerQuarters * 2 ^ (x.exponent - 2) := by
          refine mul_le_mul_of_nonneg_right ?_ (two_zpow_pos _).le
          have wide := x.four_mul_le_lowerQuarters_add_two
          rw [Nat.pow_succ]
          exact_mod_cast (by omega)
      _ ≤ y := low
  · calc y ≤ x.upperQuarters * 2 ^ (x.exponent - 2) := high
      _ ≤ (2 ^ (x.mantissa.log2 + 3) : Nat) * 2 ^ (x.exponent - 2) := by
          refine mul_le_mul_of_nonneg_right ?_ (two_zpow_pos _).le
          rw [upperQuarters, show x.mantissa.log2 + 3 = x.mantissa.log2 + 1 + 2 from rfl, Nat.pow_add]
          exact_mod_cast (by omega)
      _ = 2 ^ ((x.mantissa.log2 : Int) + x.exponent + 1) := by
          rw [← scale]
          congr 1
          push_cast
          ring

/-! ## Rounded fractions -/

theorem abs_nearestMantissa_sub_lt (positive : 0 < den) (odd : nearestMantissa num den % 2 = 1) :
    |(nearestMantissa num den : ℚ) - num / den / 2 ^ exponentFor num den| < 1 / 2 := by
  rw [← shiftLeft_div_shiftLeft]
  exact abs_roundHalfEven_sub_lt (shiftLeft_pos positive _) odd

/-- The lower end is one half of a unit below the number, or less where the number is least among
those of its unit. -/
theorem lowerQuarters_le {scaled : ℚ} (nonneg : 0 ≤ scaled)
    (near : (x.mantissa : ℚ) ≤ scaled + 1 / 2)
    (full : x.mantissa = leastFull → leastExponent < x.exponent → (x.mantissa : ℚ) ≤ scaled) :
    (x.lowerQuarters : ℚ) ≤ 4 * scaled := by
  have below {c : Nat} (positive : 0 < x.mantissa) (few : c ≤ 4)
      (reached : (4 * x.mantissa : ℚ) ≤ 4 * scaled + c) :
      ((4 * x.mantissa - c : Nat) : ℚ) ≤ 4 * scaled := by
    rw [Nat.cast_sub (by omega)]
    push_cast
    linarith
  unfold lowerQuarters
  split_ifs with least
  · have reached := full least.1 least.2
    refine below (least.1 ▸ by decide) (by omega) ?_
    push_cast
    linarith
  · rcases Nat.eq_zero_or_pos x.mantissa with nothing | positive
    · rw [nothing]
      simpa using nonneg
    · refine below positive (by omega) ?_
      push_cast
      linarith

theorem lowerQuarters_of_odd (odd : x.mantissa % 2 = 1) :
    (x.lowerQuarters : ℚ) = 4 * x.mantissa - 2 := by
  have notLeast : x.mantissa ≠ leastFull := fun least => absurd (least ▸ odd) (by decide)
  rw [lowerQuarters, if_neg (fun least => notLeast least.1), Nat.cast_sub (by omega)]
  push_cast
  rfl

/-- A fraction up to one half of a unit away lies in the interval of a number, except that it may
not be one half away from an odd number, nor below the least number of a unit. -/
theorem covers_of_near (nonneg : 0 ≤ y) (near : |(x.mantissa : ℚ) - y / 2 ^ x.exponent| ≤ 1 / 2)
    (nearer : x.mantissa % 2 = 1 → |(x.mantissa : ℚ) - y / 2 ^ x.exponent| < 1 / 2)
    (full : x.mantissa = leastFull → leastExponent < x.exponent →
      (x.mantissa : ℚ) ≤ y / 2 ^ x.exponent) : x.Covers y where
  least := by
    rw [quarters_eq]
    refine lowerQuarters_le (div_nonneg nonneg (two_zpow_pos _).le) ?_ full
    linarith [(abs_le.mp near).2]
  greatest := by
    rw [quarters_eq, upperQuarters]
    push_cast
    linarith [(abs_le.mp near).1]
  between odd := by
    obtain ⟨above, below⟩ := abs_lt.mp (nearer odd)
    rw [quarters_eq, lowerQuarters_of_odd odd, upperQuarters]
    push_cast
    constructor
    · linarith
    · linarith

/-- A fraction up to one half of a unit away from the end of an exponent lies in the interval of
the least number of the next. The unit of that is twice as large, and the end below is one quarter
of it away. -/
theorem covers_of_carry {e : Int} (least : leastExponent ≤ e)
    (near : |(2 * leastFull : Nat) - y / 2 ^ e| ≤ 1 / 2) :
    (⟨leastFull, e + 1⟩ : Binary64).Covers y := by
  obtain ⟨above, below⟩ := abs_le.mp near
  have quartersIs : quarters ⟨leastFull, e + 1⟩ y = 2 * (y / 2 ^ e) := by
    rw [quarters_eq, zpow_add_one₀ two_ne_zero, ← div_div]
    ring
  have even : leastFull % 2 = 0 := by decide
  have enough : 1 ≤ 4 * leastFull := by decide
  push_cast at above below
  refine ⟨?_, ?_, fun odd => absurd (odd.symm.trans even) one_ne_zero⟩
  · rw [quartersIs, lowerQuarters, if_pos ⟨rfl, Int.lt_add_one_of_le least⟩, Nat.cast_sub enough]
    push_cast
    linarith
  · rw [quartersIs, upperQuarters]
    push_cast
    linarith

/-- A fraction lies in the interval of the number it is rounded to. -/
theorem covers_ofRatio (numPositive : 0 < num) (denPositive : 0 < den) :
    (ofRatio num den).Covers (num / den) := by
  have near := abs_nearestMantissa_sub_le num denPositive
  rcases ofRatio_eq den numPositive.ne' with same | ⟨carry, same⟩
  · rw [same]
    refine covers_of_near (by positivity) near (abs_nearestMantissa_sub_lt denPositive)
      fun isLeast above => ?_
    have full := (exponentFor_bounds numPositive denPositive).2 above
    rw [add_comm, zpow_add₀ two_ne_zero, ← le_div_iff₀ (two_zpow_pos _)] at full
    rw [isLeast]
    exact le_trans (by norm_num [leastFull]) full
  · rw [carry] at near
    rw [same]
    exact covers_of_carry (le_max_right _ _) near

/-! ## Grids -/

theorem quarter_pos (x : Binary64) (k : Int) : 0 < (x.grid k).quarter :=
  shiftLeft_pos (Nat.pow_pos (by decide)) _

theorem point_pos (x : Binary64) (k : Int) : 0 < (x.grid k).point :=
  shiftLeft_pos (Nat.pow_pos (by decide)) _

/-- The step of the grid of multiples of `10 ^ k`, in quarters of the unit of the last place. -/
theorem point_div_quarter (x : Binary64) (k : Int) :
    ((x.grid k).point : ℚ) / (x.grid k).quarter = x.quarters (10 ^ k) := by
  have shifted := shiftLeft_div_shiftLeft (Nat.pow 10 k.toNat) (Nat.pow 10 (-k).toNat)
    (x.exponent - 2)
  have powers : ((Nat.pow 10 k.toNat : Nat) : ℚ) / (Nat.pow 10 (-k).toNat : Nat) = 10 ^ k := by
    obtain ⟨i, rfl | rfl⟩ := Int.eq_nat_or_neg k
    · simp
    · simp
  rw [neg_sub, powers] at shifted
  rw [grid, shifted, quarters]

theorem quarters_gridPoint (x : Binary64) (k : Int) (n : Nat) :
    x.quarters (n * 10 ^ k) = (n * (x.grid k).point : Nat) / (x.grid k).quarter := by
  rw [quarters, mul_div_assoc, ← quarters, ← point_div_quarter, ← mul_div_assoc]
  push_cast
  rfl

theorem mul_quarter_le_iff {c : Nat} :
    c * (x.grid k).quarter ≤ n * (x.grid k).point ↔ (c : ℚ) ≤ x.quarters (n * 10 ^ k) := by
  have quarterPositive : (0 : ℚ) < (x.grid k).quarter := by exact_mod_cast x.quarter_pos k
  rw [quarters_gridPoint, le_div_iff₀ quarterPositive]
  exact_mod_cast Iff.rfl

theorem le_mul_quarter_iff {c : Nat} :
    n * (x.grid k).point ≤ c * (x.grid k).quarter ↔ x.quarters (n * 10 ^ k) ≤ c := by
  have quarterPositive : (0 : ℚ) < (x.grid k).quarter := by exact_mod_cast x.quarter_pos k
  rw [quarters_gridPoint, div_le_iff₀ quarterPositive]
  exact_mod_cast Iff.rfl

theorem admits_iff : x.admits (x.grid k) n = true ↔ x.Covers (n * 10 ^ k) := by
  unfold admits
  dsimp only
  split_ifs with even
  · rw [Bool.and_eq_true, decide_eq_true_iff, decide_eq_true_iff, mul_quarter_le_iff,
      le_mul_quarter_iff]
    constructor
    · rintro ⟨least, greatest⟩
      exact ⟨least, greatest, fun odd => absurd odd (by omega)⟩
    · intro covered
      exact ⟨covered.least, covered.greatest⟩
  · have odd : x.mantissa % 2 = 1 := by omega
    rw [Bool.and_eq_true, decide_eq_true_iff, decide_eq_true_iff, ← not_le, ← not_le,
      mul_quarter_le_iff, le_mul_quarter_iff, not_le, not_le]
    constructor
    · rintro ⟨above, below⟩
      exact ⟨above.le, below.le, fun _ => ⟨above, below⟩⟩
    · intro covered
      exact covered.between odd

/-- What is chosen on a grid lies in the interval. -/
theorem covers_of_gridPoint? (found : x.gridPoint? tie k = some n) : x.Covers (n * 10 ^ k) := by
  rw [← admits_iff]
  unfold gridPoint? at found
  dsimp only at found
  split at found
  · rename_i below above
    obtain rfl := Option.some.inj found
    split
    · exact above
    · exact below
  · rename_i below above
    obtain rfl := Option.some.inj found
    exact below
  · rename_i below above
    obtain rfl := Option.some.inj found
    exact above
  · cases found

/-- The point of a grid that is not above a number, and the next one. -/
theorem gridPoint_bounds (x : Binary64) (k : Int) :
    let below := 4 * x.mantissa * (x.grid k).quarter / (x.grid k).point
    (below : ℚ) * 10 ^ k ≤ x.value ∧ x.value ≤ (below + 1 : Nat) * 10 ^ k := by
  intro below
  have value : x.quarters x.value = (4 * x.mantissa : Nat) := by
    rw [quarters_value]
    push_cast
    rfl
  constructor
  · rw [← quarters_le_iff (x := x), value, ← le_mul_quarter_iff]
    exact Nat.div_mul_le_self _ _
  · rw [← quarters_le_iff (x := x), value, ← mul_quarter_le_iff]
    exact (Nat.lt_div_mul_add (x.point_pos k)).le.trans_eq (Nat.succ_mul _ _).symm

/-- Nothing is chosen only if no point of the grid lies in the interval. A point that did would
have the next one to the number between them, which lies in it then. -/
theorem not_covers_of_gridPoint? (positive : 0 < x.mantissa) (nothing : x.gridPoint? tie k = none)
    (n : Nat) : ¬x.Covers (n * 10 ^ k) := by
  intro covered
  obtain ⟨lower, upper⟩ := x.gridPoint_bounds k
  set below := 4 * x.mantissa * (x.grid k).quarter / (x.grid k).point with belowIs
  have missed : x.admits (x.grid k) below = false ∧ x.admits (x.grid k) (below + 1) = false := by
    unfold gridPoint? at nothing
    dsimp only at nothing
    rw [← belowIs] at nothing
    split at nothing
    · cases nothing
    · cases nothing
    · cases nothing
    · exact ⟨‹_›, ‹_›⟩
  have monotone {a b : Nat} (le : a ≤ b) : (a : ℚ) * 10 ^ k ≤ b * 10 ^ k :=
    mul_le_mul_of_nonneg_right (by exact_mod_cast le) (by positivity)
  have own := covers_value positive
  rcases Nat.lt_or_ge below n with after | before
  · have next := own.convex covered upper (monotone after)
    exact absurd (admits_iff.mpr next) (by simp [missed.2])
  · have next := covered.convex own (monotone before) lower
    exact absurd (admits_iff.mpr next) (by simp [missed.1])

/-! ## The first decimal -/

/-- A decimal lies in the interval of a number, and no grid between it and that of `10 ^ k` has
a point there. -/
structure IsFirst (x : Binary64) (k : Int) (d : Decimal) : Prop where
  covered : x.Covers d.value
  within : d.exponent ≤ k
  coarser : ∀ i, d.exponent < i → i ≤ k → ∀ n : Nat, ¬x.Covers (n * 10 ^ i)

/-- The search finds the first decimal if it goes on to a grid that has one. -/
theorem isFirst_coarsest (positive : 0 < x.mantissa) (covered : x.Covers (n * 10 ^ j)) :
    ∀ {tries k}, j ≤ k → k - j < (tries : Nat) → x.IsFirst k (x.coarsest tie tries k) := by
  intro tries
  induction tries with
  | zero =>
    intro k reached enough
    exact absurd enough (by omega)
  | succ tries ih =>
    intro k reached enough
    cases found : x.gridPoint? tie k with
    | some c =>
      simp only [coarsest, found]
      exact ⟨covers_of_gridPoint? found, le_rfl, fun i above notAbove => absurd notAbove above.not_ge⟩
    | none =>
      have missed := not_covers_of_gridPoint? positive found
      have further : j ≠ k := by
        rintro rfl
        exact missed n covered
      simp only [coarsest, found]
      obtain ⟨finer, within, coarser⟩ := ih (k := k - 1) (by omega) (by push_cast at enough; omega)
      refine ⟨finer, by omega, fun i above notAbove => ?_⟩
      rcases Int.lt_or_eq_of_le notAbove with earlier | rfl
      · exact coarser i above (by omega)
      · exact missed

namespace IsFirst

variable (first : x.IsFirst k d)
include first

/-- A decimal of the interval is on no coarser grid. -/
theorem le_exponent (covered : x.Covers (n * 10 ^ j)) (within : j ≤ k) : j ≤ d.exponent := by
  by_contra coarser
  exact first.coarser j (by omega) within n covered

/-- No digit of the decimal can be spared. -/
theorem not_dvd (before : d.exponent < k) : ¬10 ∣ d.coefficient := by
  rintro ⟨c, same⟩
  refine first.coarser (d.exponent + 1) (by omega) (by omega) c ?_
  have value : (c : ℚ) * 10 ^ (d.exponent + 1) = d.value := by
    rw [Decimal.value, same, zpow_add_one₀ (by norm_num)]
    push_cast
    ring
  rw [value]
  exact first.covered

/-- A decimal of the interval is the first one if the unit of the last place is below its own
last place: the points of that grid are too far apart for two. -/
theorem coefficient_eq (covered : x.Covers (n * 10 ^ j)) (within : j ≤ k)
    (fine : (2 : ℚ) ^ x.exponent < 10 ^ j) :
    d.coefficient * 10 ^ (d.exponent - j).toNat = n := by
  have finer := first.le_exponent covered within
  have step : (0 : ℚ) < 10 ^ j := by positivity
  have value : d.value = (d.coefficient * 10 ^ (d.exponent - j).toNat : Nat) * 10 ^ j := by
    have exponent : d.exponent = (d.exponent - j).toNat + j := by omega
    rw [Decimal.value, Nat.cast_mul, Nat.cast_pow, Nat.cast_ofNat, mul_assoc, ← zpow_natCast,
      ← zpow_add₀ (by norm_num), ← exponent]
  have apart := (first.covered.abs_sub_le covered).trans_lt fine
  rw [value, ← sub_mul, abs_mul, abs_of_pos step, mul_lt_iff_lt_one_left step] at apart
  have less : |((d.coefficient * 10 ^ (d.exponent - j).toNat : Nat) : Int) - n| < 1 := by
    exact_mod_cast apart
  exact Int.natCast_inj.mp (sub_eq_zero.mp (Int.abs_lt_one_iff.mp less))

end IsFirst

theorem isFirst_shortest (positive : 0 < x.mantissa) (covered : x.Covers (n * 10 ^ j))
    (within : j ≤ x.coarseExponent) (near : x.coarseExponent - j < 21) :
    x.IsFirst x.coarseExponent (x.shortest tie) := by
  rw [shortest, if_neg positive.ne']
  exact isFirst_coarsest positive covered within near

/-! ## Thousandths -/

/-- The search for a number between `1 / 1000` and `10 ^ 12` begins shortly before its digits. -/
theorem coarseExponent_bounds (covered : x.Covers y) (positive : 0 < x.mantissa)
    (above : 1 / 1000 ≤ y) (below : y < 10 ^ 12) :
    -1 ≤ x.coarseExponent ∧ x.coarseExponent ≤ 14 ∧ (x.coarseExponent < 0 → y < 1 / 100) := by
  obtain ⟨low, high⟩ := covered.bounds positive
  have least : (-10 : Int) < x.mantissa.log2 + x.exponent + 1 := by
    rw [← zpow_lt_zpow_iff_right₀ (one_lt_two : (1 : ℚ) < 2)]
    refine lt_of_lt_of_le ?_ (above.trans high)
    norm_num
  have greatest : (x.mantissa.log2 : Int) + x.exponent - 1 < 40 := by
    rw [← zpow_lt_zpow_iff_right₀ (one_lt_two : (1 : ℚ) < 2)]
    refine (low.trans_lt below).trans ?_
    norm_num
  unfold coarseExponent
  refine ⟨by omega, by omega, fun negative => ?_⟩
  calc y ≤ 2 ^ ((x.mantissa.log2 : Int) + x.exponent + 1) := high
    _ ≤ 2 ^ (-7 : Int) := zpow_le_zpow_right₀ one_le_two (by omega)
    _ < 1 / 100 := by norm_num

theorem exponent_ofRatio_le (numPositive : 0 < num) :
    (ofRatio num den).exponent ≤ exponentFor num den + 1 := by
  rcases ofRatio_eq den numPositive.ne' with same | ⟨-, same⟩
  · rw [same]
    exact Int.le_add_one le_rfl
  · rw [same]

end Binary64

/-- The decimal is `n / 10 ^ width`, and there is no zero at the end of a fraction. -/
structure Decimal.Denotes (width n : Nat) (d : Decimal) : Prop where
  places : -(width : Int) ≤ d.exponent
  same : d.coefficient * 10 ^ (d.exponent + width).toNat = n
  reduced : d.exponent < 0 → ¬10 ∣ d.coefficient

namespace Binary64

variable {tie : Tie}

/-- The unit of the last place of a number below `10 ^ 12` is below one thousandth. -/
theorem two_zpow_exponent_ofRatio_lt (numPositive : 0 < num) (denPositive : 0 < den)
    (below : (num : ℚ) / den < 10 ^ 12) :
    (2 : ℚ) ^ exponentFor num den < 1 / 1000 ∧
      (2 : ℚ) ^ (ofRatio num den).exponent < 1 / 1000 := by
  have unit : (2 : ℚ) ^ exponentFor num den ≤ 10 ^ 12 / 2 ^ 52 := by
    refine two_zpow_exponentFor_le numPositive denPositive ?_ ?_
    · calc (2 : ℚ) ^ leastExponent ≤ 2 ^ (-52 : Int) :=
            zpow_le_zpow_right₀ one_le_two (by decide)
        _ ≤ 10 ^ 12 / 2 ^ 52 := by norm_num
    · rw [div_mul_cancel₀ _ (by positivity)]
      exact below.le
  constructor
  · exact unit.trans_lt (by norm_num)
  · calc (2 : ℚ) ^ (ofRatio num den).exponent ≤ 2 ^ (exponentFor num den + 1) :=
          zpow_le_zpow_right₀ one_le_two (exponent_ofRatio_le numPositive)
      _ = 2 ^ exponentFor num den * 2 := zpow_add_one₀ two_ne_zero _
      _ ≤ 10 ^ 12 / 2 ^ 52 * 2 := mul_le_mul_of_nonneg_right unit two_pos.le
      _ < 1 / 1000 := by norm_num

/-- A number is not rounded to zero if it is greater than its unit. -/
theorem mantissa_ofRatio_pos (denPositive : 0 < den)
    (above : (2 : ℚ) ^ exponentFor num den < num / den) : 0 < (ofRatio num den).mantissa := by
  have near := (abs_le.mp (abs_value_ofRatio_sub_le num denPositive)).1
  have unit := two_zpow_pos (exponentFor num den)
  by_contra nothing
  have value : (ofRatio num den).value = 0 := by simp [value, Nat.eq_zero_of_not_pos nothing]
  linarith

/-- Nothing is lost of a fraction in thousandths with up to fifteen digits. -/
theorem denotes_shortest_ofRatio (denPositive : 0 < den) (positive : 0 < n)
    (same : (num : ℚ) / den = n / 1000) (few : n < 10 ^ 15) :
    ((ofRatio num den).shortest tie).Denotes 3 n := by
  have one_le : (1 : ℚ) ≤ n := by exact_mod_cast positive
  have few' : (n : ℚ) < 10 ^ 15 := by exact_mod_cast few
  have above : 1 / 1000 ≤ (num : ℚ) / den := by
    rw [same]
    linarith
  have below : (num : ℚ) / den < 10 ^ 12 := by
    rw [same]
    linarith
  have numPositive : 0 < num := by
    rcases Nat.eq_zero_or_pos num with rfl | numPositive
    · norm_num at above
    · exact numPositive
  obtain ⟨finer, fine⟩ := two_zpow_exponent_ofRatio_lt numPositive denPositive below
  have covered := covers_ofRatio numPositive denPositive
  have mantissa := mantissa_ofRatio_pos denPositive (finer.trans_le above)
  set x := ofRatio num den
  obtain ⟨low, high, small⟩ := coarseExponent_bounds covered mantissa above below
  have grid : (num : ℚ) / den = n * 10 ^ (-3 : Int) := by
    rw [same]
    norm_num
    ring
  rw [grid] at covered
  have first : x.IsFirst x.coarseExponent (x.shortest tie) :=
    isFirst_shortest mantissa covered (by omega) (by omega)
  have coefficient := first.coefficient_eq covered (by omega) (by
    refine fine.trans_eq ?_
    norm_num)
  set d := x.shortest tie
  have places := first.le_exponent covered (by omega)
  refine ⟨places, coefficient, fun fraction => first.not_dvd ?_⟩
  -- A search that begins among fractions begins above the number.
  by_contra last
  have within := first.within
  have tenths : d.exponent = -1 := by omega
  have less : n < 10 := by
    have bound := small (by omega)
    rw [same] at bound
    exact_mod_cast (by linarith : (n : ℚ) < 10)
  have hundredfold : d.coefficient * 100 = n := by
    rw [← coefficient, tenths]
    rfl
  omega

end Binary64

end Coursework.Numeral
