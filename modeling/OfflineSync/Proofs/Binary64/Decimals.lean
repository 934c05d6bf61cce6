import Mathlib.Data.Nat.Cast.Order.Field
import OfflineSync.Binary64.Shortest
import OfflineSync.Proofs.Binary64.Rounding

/-!
# The decimal of a number

The decimal that a number is printed as, `shortestDecimal`, rounds back to the number, so it differs
from it by half a unit at most: `shortestDecimal_spec` says what it `Denotes`. Seventeen digits are
always enough for that, `exists_onGrid`.
-/

namespace OfflineSync.Binary64

/-- A decimal as a rational. -/
def Decimal.size (decimal : Decimal) : ℚ :=
  decimal.digits * 10 ^ decimal.scale

theorem ten_ne_zero : (10 : ℚ) ≠ 0 := by norm_num

theorem one_lt_ten : (1 : ℚ) < 10 := by norm_num

/-! ### Magnitudes -/

/-- The quotient of a number is its size. -/
theorem magnitude_eq (value : Binary64) :
    (value.magnitude.1 : ℚ) / value.magnitude.2 = value.size := by
  unfold magnitude size
  simp only [Nat.pow_eq]
  split
  · rename_i nonneg
    obtain ⟨power, same⟩ := Int.eq_ofNat_of_zero_le nonneg
    rw [same, Int.toNat_natCast, zpow_natCast]
    push_cast
    rw [div_one]
  · rename_i negative
    obtain ⟨power, same⟩ : ∃ power : Nat, value.exponent = -(power : Int) :=
      ⟨(-value.exponent).toNat, by omega⟩
    rw [same, neg_neg, Int.toNat_natCast, zpow_neg, zpow_natCast]
    push_cast
    rw [div_eq_mul_inv]

theorem magnitude_bottom_pos (value : Binary64) : 0 < value.magnitude.2 := by
  unfold magnitude
  simp only [Nat.pow_eq]
  split <;> positivity

theorem magnitude_top_pos {value : Binary64} (nonzero : value.significand ≠ 0) :
    0 < value.magnitude.1 := by
  have positive := Nat.pos_of_ne_zero nonzero
  unfold magnitude
  simp only [Nat.pow_eq]
  split <;> positivity

theorem size_pos {value : Binary64} (nonzero : value.significand ≠ 0) : 0 < value.size := by
  have positive : (0 : ℚ) < value.significand := by exact_mod_cast Nat.pos_of_ne_zero nonzero
  unfold size
  positivity

/-- No number but zero is smaller than the least unit. -/
theorem two_zpow_le_size {value : Binary64} (nonzero : value.significand ≠ 0) :
    (2 : ℚ) ^ (-1074 : Int) ≤ value.size := by
  have significand : (1 : ℚ) ≤ value.significand := by
    exact_mod_cast Nat.pos_of_ne_zero nonzero
  have least : (2 : ℚ) ^ (-1074 : Int) ≤ 2 ^ value.exponent :=
    zpow_le_zpow_right₀ one_le_two value.bounds.2.1
  calc (2 : ℚ) ^ (-1074 : Int) = 1 * 2 ^ (-1074 : Int) := (one_mul _).symm
    _ ≤ value.size := by
      unfold size
      gcongr

/-- Every number is smaller than the power of two behind the greatest. -/
theorem size_lt_two_zpow (value : Binary64) : value.size < 2 ^ (1024 : Int) := by
  have significand : (value.significand : ℚ) < 2 ^ (53 : Int) := by
    exact_mod_cast value.bounds.1
  have greatest : (2 : ℚ) ^ value.exponent ≤ 2 ^ (971 : Int) :=
    zpow_le_zpow_right₀ one_le_two value.bounds.2.2.1
  calc value.size < 2 ^ (53 : Int) * 2 ^ value.exponent := by
        unfold size
        gcongr
    _ ≤ 2 ^ (53 : Int) * 2 ^ (971 : Int) := by gcongr
    _ = 2 ^ (1024 : Int) := (zpow_add₀ two_ne_zero 53 971).symm

/-- The least unit is far above the powers of ten that are read as zero. -/
theorem ten_zpow_le_least : (10 : ℚ) ^ (-400 : Int) ≤ 2 ^ (-1074 : Int) / 2 := by
  have whole : (2 : Nat) ^ 1075 ≤ 10 ^ 400 := by decide +kernel
  rw [← leastHalf_eq, leastHalf, zpow_neg, zpow_neg]
  apply inv_anti₀ (by positivity)
  exact_mod_cast whole

/-- The greatest number is below the powers of ten that overflow at once. -/
theorem greatest_le_ten_zpow : (2 : ℚ) ^ (1024 : Int) * 2 ≤ 10 ^ (310 : Int) := by
  have whole : (2 : Nat) ^ 1025 ≤ 10 ^ 310 := by decide +kernel
  have double : (2 : ℚ) ^ (1025 : Int) = 2 ^ (1024 : Int) * 2 := zpow_add_one₀ two_ne_zero 1024
  rw [← double]
  exact_mod_cast whole

/-- The quotient of a number in units of a power of ten. -/
theorem inUnits_eq (value : Binary64) (scale : Int) :
    ((value.inUnits scale).1 : ℚ) / (value.inUnits scale).2 = value.size / 10 ^ scale := by
  rw [← magnitude_eq]
  unfold inUnits
  simp only [Nat.pow_eq]
  split
  · rename_i nonneg
    obtain ⟨power, rfl⟩ := Int.eq_ofNat_of_zero_le nonneg
    rw [Int.toNat_natCast, zpow_natCast]
    push_cast
    rw [div_div]
  · rename_i negative
    obtain ⟨power, rfl⟩ : ∃ power : Nat, scale = -(power : Int) := ⟨(-scale).toNat, by omega⟩
    rw [neg_neg, Int.toNat_natCast, zpow_neg, zpow_natCast]
    push_cast
    rw [div_inv_eq_mul, mul_div_right_comm]

theorem inUnits_bottom_pos (value : Binary64) (scale : Int) : 0 < (value.inUnits scale).2 := by
  have positive := magnitude_bottom_pos value
  unfold inUnits
  simp only [Nat.pow_eq]
  split <;> positivity

/-! ### Lengths -/

theorem decimalLength_pos (value : Nat) : 0 < decimalLength value := Nat.length_toDigits_pos

/-- A number is below the power of ten that its digits count. -/
theorem lt_ten_pow_decimalLength (value : Nat) : value < 10 ^ decimalLength value :=
  (Nat.length_toDigits_le_iff (by decide) (decimalLength_pos value)).mp (Nat.le_refl _)

/-- A positive number has one digit more than the power of ten that it reaches. -/
theorem ten_pow_le_of_decimalLength {value : Nat} (positive : 0 < value) :
    10 ^ (decimalLength value - 1) ≤ value := by
  by_contra below
  have counted := decimalLength_pos value
  by_cases single : decimalLength value = 1
  · rw [single] at below
    omega
  · have short := (Nat.length_toDigits_le_iff (b := 10) (n := value) (by decide)
      (show 0 < decimalLength value - 1 by omega)).mpr (by omega)
    unfold decimalLength at short counted single
    omega

/-- A number has as few digits as the power of ten above it tells. -/
theorem decimalLength_le {value count : Nat} (positive : 0 < count) (small : value < 10 ^ count) :
    decimalLength value ≤ count :=
  (Nat.length_toDigits_le_iff (by decide) positive).mpr small

/-- The whole part of a quotient is less than one below it. -/
theorem quotient_floor {denominator : Nat} (positive : 0 < denominator) (numerator : Nat) :
    ((numerator / denominator : Nat) : ℚ) ≤ numerator / denominator ∧
      (numerator : ℚ) / denominator < (numerator / denominator : Nat) + 1 := by
  refine ⟨Nat.cast_div_le, ?_⟩
  rw [div_lt_iff₀ (by exact_mod_cast positive)]
  exact_mod_cast Nat.lt_mul_of_div_lt (Nat.lt_succ_self (numerator / denominator)) positive

/-- The whole part of a quotient that reaches one tells between which powers of ten
the quotient lies. -/
theorem quotient_decimalLength {numerator denominator : Nat} (positive : 0 < denominator)
    (reaches : denominator ≤ numerator) :
    (10 : ℚ) ^ ((decimalLength (numerator / denominator) : Int) - 1) ≤ numerator / denominator ∧
      (numerator : ℚ) / denominator < 10 ^ (decimalLength (numerator / denominator) : Int) := by
  obtain ⟨below, above⟩ := quotient_floor positive numerator
  have counted := decimalLength_pos (numerator / denominator)
  have low := ten_pow_le_of_decimalLength (Nat.div_pos reaches positive)
  have high := lt_ten_pow_decimalLength (numerator / denominator)
  generalize numerator / denominator = whole at *
  constructor
  · have power : (10 : ℚ) ^ ((decimalLength whole : Int) - 1) = (10 ^ (decimalLength whole - 1) : Nat) := by
      rw [← Int.natCast_one, ← Int.natCast_sub counted, zpow_natCast]
      push_cast
      rfl
    rw [power]
    exact le_trans (by exact_mod_cast low) below
  · rw [zpow_natCast]
    have whole : (whole : ℚ) + 1 ≤ 10 ^ decimalLength whole := by exact_mod_cast high
    linarith

/-- A number lies between the power of ten just above it and the one before. -/
theorem decimalExponent_spec {value : Binary64} (nonzero : value.significand ≠ 0) :
    (10 : ℚ) ^ (value.decimalExponent - 1) ≤ value.size ∧
      value.size < 10 ^ value.decimalExponent := by
  have top := magnitude_top_pos nonzero
  have bottom := magnitude_bottom_pos value
  have positive := size_pos nonzero
  have quotient := magnitude_eq value
  unfold decimalExponent
  simp only [Nat.pow_eq]
  split
  · rename_i reaches
    rw [← quotient]
    exact quotient_decimalLength bottom reaches
  · rename_i below
    -- The quotient is below one, so the powers of ten bound its inverse.
    obtain ⟨inverseLow, inverseHigh⟩ := quotient_decimalLength top (Nat.le_of_not_le below)
    have inverse : (value.magnitude.2 : ℚ) / value.magnitude.1 = value.size⁻¹ := by
      rw [← quotient, inv_div]
    have counted := decimalLength_pos (value.magnitude.2 / value.magnitude.1)
    generalize decimalLength (value.magnitude.2 / value.magnitude.1) = places at *
    rw [inverse] at inverseLow inverseHigh
    have low : (10 : ℚ) ^ (-(places : Int)) < value.size := by
      rw [zpow_neg]
      exact inv_lt_of_inv_lt₀ positive inverseHigh
    have high : value.size ≤ (10 : ℚ) ^ (1 - (places : Int)) := by
      rw [← neg_sub, zpow_neg]
      exact le_inv_of_le_inv₀ (by positivity) inverseLow
    have power : (10 : ℚ) ^ (1 - (places : Int)) = ((10 : ℚ) ^ (places - 1))⁻¹ := by
      rw [← neg_sub, zpow_neg, ← Int.natCast_one, ← Int.natCast_sub counted, zpow_natCast]
    have strictly : value.magnitude.1 * 10 ^ (places - 1) < value.magnitude.2 ↔
        value.size < (10 : ℚ) ^ (1 - (places : Int)) := by
      rw [power, ← quotient, div_lt_iff₀ (by exact_mod_cast bottom), lt_inv_mul_iff₀ (by positivity),
        mul_comm]
      exact_mod_cast Iff.rfl
    simp only [strictly]
    split
    · rename_i strict
      refine ⟨?_, strict⟩
      rw [show 1 - (places : Int) - 1 = -places by omega]
      exact low.le
    · rename_i reached
      rw [show 2 - (places : Int) - 1 = 1 - places by omega]
      refine ⟨not_lt.mp reached, high.trans_lt ?_⟩
      exact zpow_lt_zpow_right₀ one_lt_ten (by omega)

/-! ### Decimals that are read -/

namespace Decimal

variable {decimal : Decimal} {value : Binary64}

theorem size_nonneg (decimal : Decimal) : 0 ≤ decimal.size := by
  unfold Decimal.size
  positivity

/-- A decimal as a quotient of natural numbers. -/
def ratio (decimal : Decimal) : Nat × Nat :=
  if 0 ≤ decimal.scale then (decimal.digits * 10 ^ decimal.scale.toNat, 1)
  else (decimal.digits, 10 ^ (-decimal.scale).toNat)

theorem ratio_eq (decimal : Decimal) :
    (decimal.ratio.1 : ℚ) / decimal.ratio.2 = decimal.size := by
  unfold ratio Decimal.size
  split
  · rename_i nonneg
    obtain ⟨power, same⟩ := Int.eq_ofNat_of_zero_le nonneg
    rw [same, Int.toNat_natCast, zpow_natCast]
    push_cast
    rw [div_one]
  · rename_i negative
    obtain ⟨power, same⟩ : ∃ power : Nat, decimal.scale = -(power : Int) :=
      ⟨(-decimal.scale).toNat, by omega⟩
    rw [same, neg_neg, Int.toNat_natCast, zpow_neg, zpow_natCast]
    push_cast
    rw [div_eq_mul_inv]

theorem ratio_top_pos (positive : 0 < decimal.digits) : 0 < decimal.ratio.1 := by
  unfold ratio
  split <;> positivity

theorem ratio_bottom_pos (decimal : Decimal) : 0 < decimal.ratio.2 := by
  unfold ratio
  split <;> positivity

/-- A decimal lies between the powers of ten that its length tells. -/
theorem size_bounds (positive : 0 < decimal.digits) :
    (10 : ℚ) ^ (decimal.scale + decimalLength decimal.digits - 1) ≤ decimal.size ∧
      decimal.size < 10 ^ (decimal.scale + decimalLength decimal.digits) := by
  have unit : (0 : ℚ) < 10 ^ decimal.scale := by positivity
  obtain ⟨low, high⟩ := quotient_decimalLength Nat.one_pos positive
  rw [Nat.div_one, Nat.cast_one, div_one] at low high
  unfold Decimal.size
  constructor
  · rw [add_sub_assoc, zpow_add₀ ten_ne_zero, mul_comm]
    gcongr
  · rw [zpow_add₀ ten_ne_zero, mul_comm]
    gcongr

/-- A decimal that is not far out of range is rounded by `ofRatio` as the quotient that it is. -/
theorem ofDecimal_eq (negative : Bool) (positive : 0 < decimal.digits)
    (low : -400 ≤ decimal.scale + decimalLength decimal.digits)
    (high : decimal.scale + decimalLength decimal.digits ≤ 310) :
    ofDecimal negative decimal.digits decimal.scale =
      ofRatio negative decimal.ratio.1 decimal.ratio.2 := by
  unfold ofDecimal ratio
  simp only [Nat.pow_eq]
  rw [if_neg positive.ne']
  rw [if_neg (by omega), if_neg (by omega)]
  split <;> rfl

/-- Whether a number is half a unit from a decimal at most. -/
def Denotes (decimal : Decimal) (value : Binary64) : Prop :=
  |value.size - decimal.size| ≤ halfUnit decimal.size

/-- A decimal that reads back (`readsBack`) is half a unit from its number at most. -/
theorem denotes_of_readsBack (nonzero : value.significand ≠ 0) (reads : decimal.readsBack value) :
    0 < decimal.digits ∧ decimal.Denotes value := by
  have rounded : ofDecimal value.negative decimal.digits decimal.scale = some value := by
    simpa [readsBack] using reads
  have notZero : some (zero value.negative) ≠ some value := by
    intro same
    exact nonzero (congrArg significand (Option.some.inj same)).symm
  have positive : 0 < decimal.digits := by
    by_contra none
    rw [Nat.eq_zero_of_not_pos none] at rounded
    exact notZero rounded
  have within : -400 ≤ decimal.scale + decimalLength decimal.digits ∧
      decimal.scale + decimalLength decimal.digits ≤ 310 := by
    unfold ofDecimal at rounded
    rw [if_neg positive.ne'] at rounded
    dsimp only at rounded
    split at rounded
    · cases rounded
    · split at rounded
      · exact absurd rounded notZero
      · omega
  rw [ofDecimal_eq value.negative positive within.1 within.2] at rounded
  refine ⟨positive, ?_⟩
  have error := ofRatio_error (ratio_top_pos positive) decimal.ratio_bottom_pos rounded
  rwa [ratio_eq] at error

/-- A decimal that is nearer to a number than half its unit reads back. -/
theorem readsBack_of_near (nonzero : value.significand ≠ 0)
    (near : |decimal.size - value.size| < value.size / 2 ^ 54) : decimal.readsBack value := by
  have least := two_zpow_le_size nonzero
  have greatest := size_lt_two_zpow value
  have sizePositive := size_pos nonzero
  have halves : |decimal.size - value.size| < value.size / 2 := by linarith
  obtain ⟨above, below⟩ := abs_lt.mp halves
  have positive : 0 < decimal.digits := by
    by_contra none
    have empty : decimal.size = 0 := by
      unfold Decimal.size
      rw [Nat.eq_zero_of_not_pos none, Nat.cast_zero, zero_mul]
    linarith
  obtain ⟨low, high⟩ := size_bounds positive
  have within : -400 ≤ decimal.scale + decimalLength decimal.digits ∧
      decimal.scale + decimalLength decimal.digits ≤ 310 := by
    constructor
    · have power : (10 : ℚ) ^ (-400 : Int) <
          10 ^ (decimal.scale + decimalLength decimal.digits) :=
        calc (10 : ℚ) ^ (-400 : Int) ≤ 2 ^ (-1074 : Int) / 2 := ten_zpow_le_least
          _ ≤ value.size / 2 := by gcongr
          _ < decimal.size := by linarith only [above]
          _ < _ := high
      exact ((zpow_lt_zpow_iff_right₀ one_lt_ten).mp power).le
    · have power : (10 : ℚ) ^ (decimal.scale + decimalLength decimal.digits - 1) < 10 ^ (310 : Int) :=
        calc (10 : ℚ) ^ (decimal.scale + decimalLength decimal.digits - 1) ≤ decimal.size := low
          _ < value.size * 2 := by linarith only [below, sizePositive]
          _ ≤ 2 ^ (1024 : Int) * 2 := by gcongr
          _ ≤ 10 ^ (310 : Int) := greatest_le_ten_zpow
      have exponents := (zpow_lt_zpow_iff_right₀ one_lt_ten).mp power
      omega
  have rounds := ofRatio_eq_of_near (ratio_top_pos positive) decimal.ratio_bottom_pos
    (decimal.ratio_eq ▸ near)
  unfold readsBack
  rw [ofDecimal_eq value.negative positive within.1 within.2, rounds]
  exact beq_self_eq_true _

/-- A step of trimming keeps the value. -/
private theorem size_shift {digits : Nat} {scale : Int} (whole : digits % 10 = 0) :
    (⟨digits / 10, scale + 1⟩ : Decimal).size = (⟨digits, scale⟩ : Decimal).size := by
  have tens : (digits : ℚ) = 10 * (digits / 10 : Nat) := by
    exact_mod_cast (Nat.mul_div_cancel' (Nat.dvd_of_mod_eq_zero whole)).symm
  simp only [Decimal.size]
  rw [tens, zpow_add_one₀ ten_ne_zero]
  ring

private theorem shorten_spec (steps : Nat) (decimal : Decimal) (positive : 0 < decimal.digits) :
    (trim.shorten steps decimal).size = decimal.size ∧
      0 < (trim.shorten steps decimal).digits ∧
      (trim.shorten steps decimal).digits ≤ decimal.digits := by
  induction steps generalizing decimal with
  | zero => exact ⟨rfl, positive, Nat.le_refl _⟩
  | succ steps inductionHypothesis =>
    unfold trim.shorten
    split
    · rename_i whole
      obtain ⟨same, remains, shorter⟩ := inductionHypothesis ⟨decimal.digits / 10, decimal.scale + 1⟩
        (show 0 < decimal.digits / 10 by omega)
      refine ⟨same.trans (size_shift whole.1), remains, shorter.trans ?_⟩
      exact Nat.div_le_self _ _
    · exact ⟨rfl, positive, Nat.le_refl _⟩

/-- A decimal after `trim` has the same value and no more digits. -/
theorem trim_spec (positive : 0 < decimal.digits) :
    decimal.trim.size = decimal.size ∧ 0 < decimal.trim.digits ∧
      decimal.trim.digits ≤ decimal.digits :=
  shorten_spec _ decimal positive

end Decimal

section Shortest

variable {value : Binary64} {scale : Int} {decimal : Decimal}

/-- A decimal found by `onGrid` reads back, and is one of the two neighbours. -/
theorem onGrid_eq_some (found : value.onGrid scale = some decimal) :
    decimal.readsBack value ∧ decimal.scale = scale ∧
      decimal.digits ≤ (value.inUnits scale).1 / (value.inUnits scale).2 + 1 := by
  unfold onGrid at found
  dsimp only at found
  split at found
  · rename_i below above
    cases found
    split
    · exact ⟨below, rfl, Nat.le_succ _⟩
    · exact ⟨above, rfl, Nat.le_refl _⟩
  · rename_i below _
    cases found
    exact ⟨below, rfl, Nat.le_succ _⟩
  · rename_i _ above
    cases found
    exact ⟨above, rfl, Nat.le_refl _⟩
  · cases found

/-- A neighbour on a fine grid that is half a step away at most reads back. -/
private theorem readsBack_of_half (nonzero : value.significand ≠ 0)
    (fine : (10 : ℚ) ^ scale ≤ value.size / 10 ^ 16) {whole : Nat}
    (half : |(whole : ℚ) - value.size / 10 ^ scale| ≤ 1 / 2) :
    (⟨whole, scale⟩ : Decimal).readsBack value := by
  have unit : (0 : ℚ) < 10 ^ scale := by positivity
  have positive := size_pos nonzero
  have scaled : (⟨whole, scale⟩ : Decimal).size - value.size =
      ((whole : ℚ) - value.size / 10 ^ scale) * 10 ^ scale := by
    rw [sub_mul, div_mul_cancel₀ _ unit.ne']
    rfl
  refine Decimal.readsBack_of_near nonzero ?_
  rw [scaled, abs_mul, abs_of_pos unit]
  calc |(whole : ℚ) - value.size / 10 ^ scale| * 10 ^ scale
      ≤ 1 / 2 * (value.size / 10 ^ 16) := by gcongr
    _ < value.size / 2 ^ 54 := by linarith

/-- On a grid that is fine enough one of the two neighbours reads back. -/
theorem exists_onGrid (nonzero : value.significand ≠ 0)
    (fine : (10 : ℚ) ^ scale ≤ value.size / 10 ^ 16) : ∃ decimal, value.onGrid scale = some decimal := by
  obtain ⟨low, high⟩ := quotient_floor (value.inUnits_bottom_pos scale) (value.inUnits scale).1
  rw [inUnits_eq] at low high
  have reads : (⟨(value.inUnits scale).1 / (value.inUnits scale).2, scale⟩ : Decimal).readsBack value ∨
      (⟨(value.inUnits scale).1 / (value.inUnits scale).2 + 1, scale⟩ : Decimal).readsBack value := by
    generalize (value.inUnits scale).1 / (value.inUnits scale).2 = whole at *
    rcases le_total (value.size / 10 ^ scale) (whole + 1 / 2) with below | above
    · refine .inl (readsBack_of_half nonzero fine ?_)
      rw [abs_le]
      constructor <;> linarith
    · refine .inr (readsBack_of_half nonzero fine ?_)
      push_cast
      rw [abs_le]
      constructor <;> linarith
  unfold onGrid
  dsimp only
  rcases reads with below | above
  · rw [below]
    split <;> simp_all
  · rw [above]
    split <;> simp_all

/-- A grid that starts a number of places below the first digit of a number counts
the number in that many digits. -/
theorem inUnits_lt (below : value.size < 10 ^ value.decimalExponent) (count : Nat) :
    (value.inUnits (value.decimalExponent - count)).1 /
      (value.inUnits (value.decimalExponent - count)).2 < 10 ^ count := by
  have unit : (0 : ℚ) < 10 ^ (value.decimalExponent - count) := by positivity
  have floor := (quotient_floor (value.inUnits_bottom_pos (value.decimalExponent - count))
    (value.inUnits (value.decimalExponent - count)).1).1
  rw [inUnits_eq] at floor
  have power : value.size / 10 ^ (value.decimalExponent - count) < 10 ^ count := by
    rw [div_lt_iff₀ unit, ← zpow_natCast, ← zpow_add₀ ten_ne_zero, add_sub_cancel]
    exact below
  exact_mod_cast floor.trans_lt power

/-- The decimal that a number is printed as has seventeen digits at most, counting
the next power of ten, and is half a unit from the number. -/
theorem shortestDecimal_spec (nonzero : value.significand ≠ 0) :
    0 < value.shortestDecimal.digits ∧ value.shortestDecimal.digits ≤ 10 ^ 17 ∧
      value.shortestDecimal.Denotes value := by
  obtain ⟨lower, upper⟩ := decimalExponent_spec nonzero
  unfold shortestDecimal
  rw [if_neg nonzero]
  dsimp only
  split
  · rename_i decimal found
    obtain ⟨count, counted, found⟩ := List.exists_of_findSome?_eq_some found
    have few : count ≤ 17 := by
      rw [List.mem_range'_1] at counted
      omega
    obtain ⟨reads, -, short⟩ := onGrid_eq_some found
    obtain ⟨positive, denotes⟩ := Decimal.denotes_of_readsBack nonzero reads
    obtain ⟨same, remains, shorter⟩ := Decimal.trim_spec positive
    have power : (10 : Nat) ^ count ≤ 10 ^ 17 := Nat.pow_le_pow_right (by decide) few
    have grid := inUnits_lt upper count
    refine ⟨remains, by omega, ?_⟩
    unfold Decimal.Denotes
    rw [same]
    exact denotes
  · rename_i missing
    -- The grid of seventeen digits is fine enough.
    have fine : (10 : ℚ) ^ (value.decimalExponent - (17 : Nat)) ≤ value.size / 10 ^ 16 := by
      have places : value.decimalExponent - (17 : Nat) + (16 : Nat) = value.decimalExponent - 1 := by
        omega
      rw [le_div_iff₀ (by positivity), ← zpow_natCast, ← zpow_add₀ ten_ne_zero, places]
      exact lower
    obtain ⟨decimal, found⟩ := exists_onGrid nonzero fine
    have absent := List.findSome?_eq_none_iff.mp missing 17 (by decide)
    rw [found] at absent
    cases absent

end Shortest

end OfflineSync.Binary64
