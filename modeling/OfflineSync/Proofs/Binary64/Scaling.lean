import OfflineSync.Binary64.Arithmetic
import OfflineSync.Proofs.Binary64.Decimals

/-!
# Scaling a significand

A significand is scaled by rounding it, rounding the power of ten and rounding their product or
quotient. Each step exists as long as it does not overflow, and each `Rounds` with a relative error
of half a unit. `exists_scaleDecimal` puts the steps together.
-/

namespace OfflineSync.Binary64

/-- A number that a quotient is rounded to. -/
structure Rounds (value : Binary64) (negative : Bool) (quotient : ℚ) : Prop where
  sign : value.negative = negative
  near : |value.size - quotient| ≤ halfUnit quotient

theorem size_zero (negative : Bool) : (zero negative).size = 0 := by
  simp [size, zero]

/-- A quotient below the limit is rounded to a number. -/
theorem exists_ofQuotient (negative : Bool) {numerator denominator : Nat} (bottom : 0 < denominator)
    (bounded : (numerator : ℚ) / denominator < limit) :
    ∃ value, ofQuotient negative numerator denominator = some value ∧
      value.Rounds negative (numerator / denominator) := by
  unfold ofQuotient
  split
  · rename_i none
    refine ⟨zero negative, rfl, rfl, ?_⟩
    rw [none, size_zero, Nat.cast_zero, zero_div, sub_zero, abs_zero]
    exact le_max_of_le_left (by norm_num)
  · rename_i some
    have top := Nat.pos_of_ne_zero some
    obtain ⟨value, rounded⟩ := exists_ofRatio negative top bottom bounded
    exact ⟨value, rounded, (ofRatio_eq_some.mp rounded).1, ofRatio_error top bottom rounded⟩

variable {left right : Binary64}

/-- A product below the limit is rounded to a number. -/
theorem exists_mul (bounded : left.size * right.size < limit) :
    ∃ value, left.mul right = some value ∧
      value.Rounds (left.negative != right.negative) (left.size * right.size) := by
  have bottom := Nat.mul_pos left.magnitude_bottom_pos right.magnitude_bottom_pos
  have quotient : ((left.magnitude.1 * right.magnitude.1 : Nat) : ℚ) /
      (left.magnitude.2 * right.magnitude.2 : Nat) = left.size * right.size := by
    rw [← magnitude_eq, ← magnitude_eq]
    push_cast
    rw [mul_div_mul_comm]
  rw [← quotient] at bounded ⊢
  exact exists_ofQuotient _ bottom bounded

/-- A quotient of numbers below the limit is rounded to a number. -/
theorem exists_div (nonzero : right.significand ≠ 0) (bounded : left.size / right.size < limit) :
    ∃ value, left.div right = some value ∧
      value.Rounds (left.negative != right.negative) (left.size / right.size) := by
  have bottom := Nat.mul_pos left.magnitude_bottom_pos (magnitude_top_pos nonzero)
  have quotient : ((left.magnitude.1 * right.magnitude.2 : Nat) : ℚ) /
      (left.magnitude.2 * right.magnitude.1 : Nat) = left.size / right.size := by
    rw [← magnitude_eq, ← magnitude_eq]
    push_cast
    rw [div_div_div_eq]
  rw [← quotient] at bounded ⊢
  unfold div
  dsimp only
  rw [if_neg (magnitude_top_pos nonzero).ne']
  exact exists_ofQuotient _ bottom bounded

/-- Half the least unit is far below one. -/
theorem leastHalf_le : leastHalf ≤ 1 / 2 ^ 60 := by
  rw [leastHalf]
  refine (zpow_le_zpow_right₀ one_le_two (by norm_num : (-1075 : Int) ≤ -60)).trans_eq ?_
  rw [zpow_neg, ← one_div]
  rfl

/-- From one on, half a unit is a relative error. -/
theorem halfUnit_of_one_le {quotient : ℚ} (large : 1 ≤ quotient) :
    halfUnit quotient = quotient / 2 ^ 53 := by
  have scaled : 1 / 2 ^ 53 ≤ quotient / 2 ^ 53 := by gcongr
  refine max_eq_left (leastHalf_le.trans (le_trans ?_ scaled))
  norm_num

theorem halfUnit_le {quotient : ℚ} (nonneg : 0 ≤ quotient) :
    halfUnit quotient ≤ quotient / 2 ^ 53 + leastHalf := by
  have scaled : 0 ≤ quotient / 2 ^ 53 := by positivity
  exact max_le (le_add_of_nonneg_right leastHalf_pos.le) (le_add_of_nonneg_left scaled)

/-- The greatest power of ten in range is below the limit. -/
theorem ten_pow_lt_limit {places : Nat} (within : places ≤ greatestPower) :
    (10 : ℚ) ^ places < limit := by
  have whole : (10 : Nat) ^ 308 < 18014398509481983 * 2 ^ 970 := by decide +kernel
  have greatest : (10 : ℚ) ^ 308 < limit := by
    have cast : ((10 ^ 308 : Nat) : ℚ) < (18014398509481983 * 2 ^ 970 : Nat) := Nat.cast_lt.mpr whole
    have top : (2 : ℚ) ^ 54 - 1 = 18014398509481983 := by norm_num
    have power : (2 : ℚ) ^ (970 : Int) = 2 ^ 970 := zpow_natCast 2 970
    rw [limit, top, power]
    simpa only [Nat.cast_mul, Nat.cast_pow, Nat.cast_ofNat] using cast
  exact (pow_le_pow_right₀ one_lt_ten.le within).trans_lt greatest

/-- The next power of ten is not. -/
theorem limit_le_ten_pow : limit ≤ 10 ^ 309 := by
  have whole : 18014398509481983 * 2 ^ 970 ≤ (10 : Nat) ^ 309 := by decide +kernel
  have cast : ((18014398509481983 * 2 ^ 970 : Nat) : ℚ) ≤ (10 ^ 309 : Nat) := Nat.cast_le.mpr whole
  have top : (2 : ℚ) ^ 54 - 1 = 18014398509481983 := by norm_num
  have power : (2 : ℚ) ^ (970 : Int) = 2 ^ 970 := zpow_natCast 2 970
  rw [limit, top, power]
  simpa only [Nat.cast_mul, Nat.cast_pow, Nat.cast_ofNat] using cast

/-- A positive word is rounded to a number with a relative error of half a unit. -/
theorem exists_ofNat {word : Nat} (positive : 0 < word) (small : word < 2 ^ 64) :
    ∃ value, ofNat word = some value ∧ value.negative = false ∧
      |value.size - word| ≤ word / 2 ^ 53 := by
  have power : (10 : ℚ) ^ 20 < limit := ten_pow_lt_limit (by decide)
  have bounded : (word : ℚ) / (1 : Nat) < limit := by
    rw [Nat.cast_one, div_one]
    have cast : (word : ℚ) < 2 ^ 64 := by exact_mod_cast small
    linarith
  obtain ⟨value, rounded, sign, near⟩ := exists_ofQuotient false Nat.one_pos bounded
  rw [Nat.cast_one, div_one, halfUnit_of_one_le (by exact_mod_cast positive)] at near
  exact ⟨value, rounded, sign, near⟩

/-- A power of ten in range is rounded to a number with a relative error of half a unit. -/
theorem exists_powerOfTen {places : Nat} (within : places ≤ greatestPower) :
    ∃ value, powerOfTen places = some value ∧ value.negative = false ∧
      |value.size - 10 ^ places| ≤ 10 ^ places / 2 ^ 53 := by
  have range : places ≤ 308 := within
  have single : decimalLength 1 = 1 := by decide
  have quotient := Decimal.ratio_eq ⟨1, places⟩
  have bottom := Decimal.ratio_bottom_pos ⟨1, places⟩
  have one : 0 < (⟨1, places⟩ : Decimal).digits := Nat.one_pos
  have top := Decimal.ratio_top_pos one
  have power : (⟨1, places⟩ : Decimal).size = 10 ^ places := by
    rw [Decimal.size, Nat.cast_one, one_mul, zpow_natCast]
  have rounds := Decimal.ofDecimal_eq false one
    (by rw [single]; dsimp only; omega) (by rw [single]; dsimp only; omega)
  rw [power] at quotient
  obtain ⟨value, rounded⟩ := exists_ofRatio false top bottom (quotient ▸ ten_pow_lt_limit within)
  refine ⟨value, rounds.trans rounded, (ofRatio_eq_some.mp rounded).1, ?_⟩
  have near := ofRatio_error top bottom rounded
  rw [quotient] at near
  exact near.trans_eq (halfUnit_of_one_le (one_le_pow₀ one_lt_ten.le))

/-- Every number is below the limit. -/
theorem size_lt_limit (value : Binary64) : value.size < limit := by
  have significand : (value.significand : ℚ) ≤ 2 ^ 53 - 1 := by
    have whole : value.significand + 1 ≤ 2 ^ 53 := value.bounds.1
    have cast : (value.significand : ℚ) + 1 ≤ 2 ^ 53 := by exact_mod_cast whole
    linarith
  have greatest : (2 : ℚ) ^ value.exponent ≤ 2 ^ (971 : Int) :=
    zpow_le_zpow_right₀ one_le_two value.bounds.2.2.1
  have double : (2 : ℚ) ^ (971 : Int) = 2 ^ (970 : Int) * 2 := zpow_add_one₀ two_ne_zero 970
  have unit : (0 : ℚ) < 2 ^ (970 : Int) := by positivity
  calc value.size ≤ (2 ^ 53 - 1) * 2 ^ (971 : Int) :=
        mul_le_mul significand greatest (by positivity) (by norm_num)
    _ = (2 ^ 54 - 2) * 2 ^ (970 : Int) := by
        rw [double]
        ring
    _ < limit := by
        rw [limit]
        exact mul_lt_mul_of_pos_right (by norm_num) unit

/-- Dividing by a power of ten has a relative error of few units. -/
theorem exists_div_powerOfTen (value : Binary64) {places : Nat} (some : 0 < places)
    (within : places ≤ greatestPower) :
    ∃ quotient, (powerOfTen places).bind value.div = .some quotient ∧
      quotient.negative = value.negative ∧
      quotient.size ≤ value.size / 10 ^ places * (1 + 1 / 2 ^ 51) + leastHalf := by
  obtain ⟨power, found, sign, near⟩ := exists_powerOfTen within
  have nonneg := value.size_nonneg
  have scale : (10 : ℚ) ≤ 10 ^ places := le_self_pow₀ one_lt_ten.le some.ne'
  have low : (10 : ℚ) ^ places * (1 - 1 / 2 ^ 53) ≤ power.size := by
    have below := (abs_le.mp near).1
    linarith
  have positive : 0 < power.size := by linarith
  have nonzero : power.significand ≠ 0 := by
    intro none
    rw [size, none, Nat.cast_zero, zero_mul] at positive
    exact lt_irrefl _ positive
  have divided : value.size / power.size ≤ value.size / 10 ^ places * (1 / (1 - 1 / 2 ^ 53)) := by
    rw [div_mul_div_comm, mul_one]
    gcongr
  have quotientNonneg : 0 ≤ value.size / 10 ^ places := by positivity
  have small : value.size / 10 ^ places ≤ value.size / 10 := by gcongr
  have bounded : value.size / power.size < limit := by
    have limited := size_lt_limit value
    norm_num at divided
    linarith
  obtain ⟨quotient, rounded, same, error⟩ := exists_div nonzero bounded
  refine ⟨quotient, ?_, ?_, ?_⟩
  · rw [found]
    exact rounded
  · rw [same, sign, Bool.bne_false]
  · have ratioNonneg : 0 ≤ value.size / power.size := by positivity
    have unit := halfUnit_le ratioNonneg
    have above := (abs_le.mp error).2
    norm_num at divided unit ⊢
    linarith

/-- A number of at most half the least unit is zero. -/
theorem size_eq_zero {value : Binary64} (small : value.size ≤ leastHalf) : value.size = 0 := by
  by_cases none : value.significand = 0
  · rw [size, none, Nat.cast_zero, zero_mul]
  · have least := two_zpow_le_size none
    have half := leastHalf_eq
    have positive := leastHalf_pos
    linarith

/-- Dividing by a power of ten makes no number larger. -/
theorem size_le_of_div {value quotient : Binary64} {places : Nat} (some : 0 < places)
    (close : quotient.size ≤ value.size / 10 ^ places * (1 + 1 / 2 ^ 51) + leastHalf) :
    quotient.size ≤ value.size := by
  by_cases none : value.significand = 0
  · have zero : value.size = 0 := by rw [size, none, Nat.cast_zero, zero_mul]
    rw [zero, zero_div, zero_mul, zero_add] at close
    rw [zero, size_eq_zero close]
  · have least := two_zpow_le_size none
    have half := leastHalf_eq
    have nonneg := value.size_nonneg
    have scale : (10 : ℚ) ≤ 10 ^ places := le_self_pow₀ one_lt_ten.le some.ne'
    have small : value.size / 10 ^ places ≤ value.size / 10 := by gcongr
    norm_num at close
    linarith

/-- Dividing by the greatest power of ten, any number of times, exists and makes no
number larger; once is as much as dividing by that power. -/
theorem exists_divGreatestPower (count : Nat) (value : Binary64) :
    ∃ quotient, divGreatestPower count value = some quotient ∧
      quotient.negative = value.negative ∧ quotient.size ≤ value.size ∧
      (0 < count →
        quotient.size ≤ value.size / 10 ^ greatestPower * (1 + 1 / 2 ^ 51) + leastHalf) := by
  induction count generalizing value with
  | zero => exact ⟨value, rfl, rfl, le_rfl, fun absurd => (Nat.lt_irrefl 0 absurd).elim⟩
  | succ count inductionHypothesis =>
    unfold divGreatestPower
    by_cases none : value.significand = 0
    · have zero : value.size = 0 := by rw [size, none, Nat.cast_zero, zero_mul]
      rw [if_pos none]
      refine ⟨value, rfl, rfl, le_rfl, fun _ => ?_⟩
      rw [zero, zero_div, zero_mul, zero_add]
      exact leastHalf_pos.le
    · obtain ⟨once, divided, sign, close⟩ :=
        exists_div_powerOfTen value (show 0 < greatestPower by decide) (Nat.le_refl _)
      obtain ⟨quotient, found, same, smaller, -⟩ := inductionHypothesis once
      obtain ⟨power, powered, divided⟩ := Option.bind_eq_some_iff.mp divided
      refine ⟨quotient, ?_, same.trans sign, ?_, fun _ => smaller.trans close⟩
      · rw [if_neg none, powered, Option.bind_some, divided, Option.bind_some]
        exact found
      · exact smaller.trans (size_le_of_div (by decide) close)

/-- Dividing by a power of ten exists, and is as much as dividing by the power, or
by the greatest one in range. -/
theorem exists_divPowerOfTen (value : Binary64) {places : Nat} (some : 0 < places) :
    ∃ quotient, value.divPowerOfTen places = .some quotient ∧
      quotient.negative = value.negative ∧
      quotient.size ≤ value.size / 10 ^ min places greatestPower * (1 + 1 / 2 ^ 51) + leastHalf := by
  have remaining : 0 < places - (places - 1) / greatestPower * greatestPower ∧
      places - (places - 1) / greatestPower * greatestPower ≤ greatestPower := by
    unfold greatestPower
    omega
  obtain ⟨divided, found, sign, -, first⟩ :=
    exists_divGreatestPower ((places - 1) / greatestPower) value
  obtain ⟨quotient, rounded, same, close⟩ := exists_div_powerOfTen divided remaining.1 remaining.2
  refine ⟨quotient, ?_, same.trans sign, ?_⟩
  · unfold divPowerOfTen
    dsimp only
    rw [found, Option.bind_some]
    exact rounded
  · by_cases within : places ≤ greatestPower
    · have none : (places - 1) / greatestPower = 0 := Nat.div_eq_of_lt (by omega)
      rw [none] at found close
      cases found
      rw [Nat.min_eq_left within]
      rwa [Nat.zero_mul, Nat.sub_zero] at close
    · have counted : 0 < (places - 1) / greatestPower := Nat.div_pos (by omega) (by decide)
      rw [Nat.min_eq_right (by omega)]
      exact (size_le_of_div remaining.1 close).trans (first counted)

/-- Multiplying by a power of ten exists below the limit, and has a relative error of
few units. -/
theorem exists_mulPowerOfTen {value : Binary64} {places : Nat} (within : places ≤ greatestPower)
    (large : 1 / 2 ≤ value.size)
    (bounded : value.size * 10 ^ places * (1 + 1 / 2 ^ 53) < limit) :
    ∃ product, value.mulPowerOfTen places = some product ∧
      product.negative = value.negative ∧
      product.size ≤ value.size * 10 ^ places * (1 + 1 / 2 ^ 51) := by
  obtain ⟨power, found, sign, near⟩ := exists_powerOfTen within
  have scale : (1 : ℚ) ≤ 10 ^ places := one_le_pow₀ one_lt_ten.le
  have high : power.size ≤ 10 ^ places * (1 + 1 / 2 ^ 53) := by
    have above := (abs_le.mp near).2
    linarith
  have multiplied : value.size * power.size ≤ value.size * 10 ^ places * (1 + 1 / 2 ^ 53) := by
    rw [mul_assoc]
    gcongr
  obtain ⟨product, rounded, same, error⟩ := exists_mul (multiplied.trans_lt bounded)
  refine ⟨product, ?_, ?_, ?_⟩
  · rw [mulPowerOfTen, if_pos within, found]
    exact rounded
  · rw [same, sign, Bool.bne_false]
  · have nonneg : 0 ≤ value.size * power.size := mul_nonneg value.size_nonneg power.size_nonneg
    have unit := halfUnit_le nonneg
    have above := (abs_le.mp error).2
    have least := leastHalf_le
    have scaled : 1 / 2 ≤ value.size * 10 ^ places := by nlinarith
    norm_num at multiplied unit least ⊢
    linarith

/-- A significand that is scaled to less than the limit is scaled to a number, which is
not much greater than the exact product, or the product with the least power in range. -/
theorem exists_scaleDecimal {word : Nat} {scale : Int} (positive : 0 < word) (small : word < 2 ^ 64)
    (bounded : (word : ℚ) * 10 ^ scale * (1 + 1 / 2 ^ 51) < limit) :
    ∃ value, ((ofNat word).bind fun significand => significand.scaleDecimal scale) = some value ∧
      value.negative = false ∧
      value.size ≤ word * 10 ^ max scale (-greatestPower) * (1 + 1 / 2 ^ 50) + leastHalf := by
  obtain ⟨significand, rounded, sign, near⟩ := exists_ofNat positive small
  have least : (1 : ℚ) ≤ word := by exact_mod_cast positive
  obtain ⟨low, high⟩ := abs_le.mp near
  have half := leastHalf_pos
  rw [rounded, Option.bind_some]
  unfold scaleDecimal
  split
  · rename_i nonneg
    obtain ⟨places, rfl⟩ := Int.eq_ofNat_of_zero_le nonneg
    rw [Int.toNat_natCast, max_eq_left (by omega), zpow_natCast]
    rw [zpow_natCast] at bounded
    have unit : (0 : ℚ) < 10 ^ places := by positivity
    have scaled : significand.size * 10 ^ places ≤ word * 10 ^ places * (1 + 1 / 2 ^ 53) := by
      rw [mul_right_comm]
      gcongr
      linarith
    have whole : 1 * (10 : ℚ) ^ places ≤ word * 10 ^ places := by gcongr
    have within : places ≤ greatestPower := by
      have power : (10 : ℚ) ^ places < 10 ^ 309 := by
        refine lt_of_lt_of_le ?_ limit_le_ten_pow
        norm_num at bounded ⊢
        linarith
      have exponents := (pow_lt_pow_iff_right₀ one_lt_ten).mp power
      unfold greatestPower
      omega
    obtain ⟨product, multiplied, same, close⟩ := exists_mulPowerOfTen within
      (show 1 / 2 ≤ significand.size by linarith) (by norm_num at bounded scaled ⊢; linarith)
    refine ⟨product, multiplied, same.trans sign, ?_⟩
    norm_num at close scaled ⊢
    linarith
  · rename_i negative
    obtain ⟨places, rfl⟩ : ∃ places : Nat, scale = -(places : Int) := ⟨(-scale).toNat, by omega⟩
    rw [neg_neg, Int.toNat_natCast]
    have some : 0 < places := by omega
    obtain ⟨quotient, divided, same, close⟩ := exists_divPowerOfTen significand some
    have exponent : max (-(places : Int)) (-greatestPower) = -(min places greatestPower : Nat) := by
      omega
    refine ⟨quotient, divided, same.trans sign, ?_⟩
    rw [exponent, zpow_neg, zpow_natCast, ← div_eq_mul_inv]
    have nonneg : 0 ≤ (word : ℚ) / 10 ^ min places greatestPower := by positivity
    have scaled : significand.size / 10 ^ min places greatestPower ≤
        word / 10 ^ min places greatestPower * (1 + 1 / 2 ^ 53) := by
      rw [div_mul_eq_mul_div]
      gcongr
      linarith
    norm_num at close scaled ⊢
    linarith

end OfflineSync.Binary64
