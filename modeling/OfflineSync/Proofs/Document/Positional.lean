import OfflineSync.Proofs.Document.Numbers

/-!
# Numbers of few places

A number that has at most sixteen places in front of its point is `Positional`: it is written
without an exponent, or with a negative one. The reader does not take it to a number of more places,
`Positional.reread`, although it may take it to a neighbour.
-/

namespace OfflineSync.Binary64

variable {value : Binary64}

/-- A number that reaches two to the 53 has a unit of two at least. -/
theorem one_le_exponent (large : 2 ^ 53 ≤ value.size) : 1 ≤ value.exponent := by
  have significand : (value.significand : ℚ) < 2 ^ 53 := by exact_mod_cast value.bounds.1
  by_contra lower
  have power : (2 : ℚ) ^ value.exponent ≤ 1 := zpow_le_one_of_nonpos₀ one_le_two (by omega)
  have size : value.size ≤ value.significand * 1 := by
    unfold size
    gcongr
  linarith

/-- A number below two to the 54 has a unit of two at most. -/
theorem exponent_le_one (small : value.size < 2 ^ 54) : value.exponent ≤ 1 := by
  by_contra above
  obtain ⟨-, -, -, full⟩ := value.bounds
  have significand : (2 ^ 52 : ℚ) ≤ value.significand := by
    exact_mod_cast full.resolve_right (by omega)
  have power : (2 : ℚ) ^ (2 : Int) ≤ 2 ^ value.exponent :=
    zpow_le_zpow_right₀ one_le_two (by omega)
  have size : 2 ^ 52 * 2 ^ (2 : Int) ≤ value.size := by
    unfold size
    gcongr
  norm_num at size small
  linarith

/-- A number that reaches two to the 53 is even, and a whole number. -/
theorem even_of_two_pow_le (large : 2 ^ 53 ≤ value.size) : ∃ half : Nat, value.size = 2 * half := by
  have positive := one_le_exponent large
  obtain ⟨places, same⟩ := Int.eq_ofNat_of_zero_le (show 0 ≤ value.exponent - 1 by omega)
  refine ⟨value.significand * 2 ^ places, ?_⟩
  unfold size
  rw [show value.exponent = (places : Int) + 1 by omega, zpow_add_one₀ two_ne_zero, zpow_natCast]
  push_cast
  ring

/-- The decimal of a number lies below the power of ten behind its first digit. -/
theorem size_shortestDecimal_bounds (nonzero : value.significand ≠ 0) :
    (10 : ℚ) ^ value.shortestDecimal.leadingExponent ≤ value.shortestDecimal.size ∧
      value.shortestDecimal.size < 10 ^ (value.shortestDecimal.leadingExponent + 1) := by
  obtain ⟨positive, -, -⟩ := shortestDecimal_spec nonzero
  obtain ⟨low, high⟩ := Decimal.size_bounds positive
  unfold Decimal.leadingExponent
  rw [sub_add_cancel]
  exact ⟨low, high⟩

/-- A decimal that reaches one is half a unit of its own size from the number at most. -/
theorem near_shortestDecimal (nonzero : value.significand ≠ 0)
    (large : 1 ≤ value.shortestDecimal.size) :
    |value.size - value.shortestDecimal.size| ≤ value.shortestDecimal.size / 2 ^ 53 := by
  obtain ⟨-, -, denotes⟩ := shortestDecimal_spec nonzero
  exact denotes.trans_eq (halfUnit_of_one_le large)

/-- A number below the 16th power of ten has its first digit below the sixteenth place. -/
theorem leadingExponent_lt_of_size_lt (nonzero : value.significand ≠ 0)
    (small : value.size < 10 ^ 16) : value.shortestDecimal.leadingExponent < 16 := by
  by_contra above
  obtain ⟨low, -⟩ := size_shortestDecimal_bounds nonzero
  have reaches : (10 : ℚ) ^ (16 : Nat) ≤ value.shortestDecimal.size := by
    refine le_trans ?_ low
    rw [← zpow_natCast]
    exact zpow_le_zpow_right₀ one_lt_ten.le (by omega)
  have near := (abs_le.mp (near_shortestDecimal nonzero (by linarith))).1
  have close : (10 : ℚ) ^ 16 - 2 < value.size := by
    norm_num at reaches near ⊢
    linarith
  have large : 2 ^ 53 ≤ value.size := by
    norm_num at close ⊢
    linarith
  obtain ⟨half, same⟩ := even_of_two_pow_le large
  rw [same] at small close
  norm_num at small close
  have low : 10 ^ 16 < 2 * half + 2 := by
    have cast : ((10 ^ 16 : Nat) : ℚ) < (2 * half + 2 : Nat) := by
      push_cast
      linarith
    exact_mod_cast cast
  have high : 2 * half < 10 ^ 16 := by
    have cast : ((2 * half : Nat) : ℚ) < (10 ^ 16 : Nat) := by
      push_cast
      linarith
    exact_mod_cast cast
  omega

/-- The numbers next to the 16th power of ten, which itself comes first. -/
def nearTenPow (below : Fin 6) : Binary64 :=
  ⟨false, 5 * 10 ^ 15 - below, 1, by revert below; decide⟩

/-- The reader does not take a number next to the 16th power of ten, one of `nearTenPow`, to the
power. -/
theorem reread_nearTenPow (below : Fin 6)
    (small : (nearTenPow below).shortestDecimal.leadingExponent < 16) :
    (nearTenPow below).reread.negative = false ∧
      (nearTenPow below).reread.shortestDecimal.leadingExponent < 16 := by
  revert below
  decide +kernel

/-- A number whose decimal comes close to the 16th power of ten is one of `nearTenPow`. -/
theorem eq_nearTenPow (nonzero : value.significand ≠ 0) (positive : value.negative = false)
    (close : 10 ^ 16 - 10 < value.shortestDecimal.size)
    (small : value.shortestDecimal.size < 10 ^ 16) : ∃ below, value = nearTenPow below := by
  have near := near_shortestDecimal nonzero (by norm_num at close ⊢; linarith)
  obtain ⟨low, high⟩ := abs_le.mp near
  have above : 10 ^ 16 - 12 < value.size := by
    norm_num at close small low ⊢
    linarith
  have below : value.size < 10 ^ 16 + 2 := by
    norm_num at close small high ⊢
    linarith
  have exponent : value.exponent = 1 := by
    have large : 2 ^ 53 ≤ value.size := by
      norm_num at above ⊢
      linarith
    have small : value.size < 2 ^ 54 := by
      norm_num at below ⊢
      linarith
    have least := one_le_exponent large
    have most := exponent_le_one small
    omega
  have size : value.size = value.significand * 2 := by
    unfold Binary64.size
    rw [exponent, zpow_one]
  rw [size] at above below
  have low : 10 ^ 16 < 2 * value.significand + 12 := by
    have cast : ((10 ^ 16 : Nat) : ℚ) < (2 * value.significand + 12 : Nat) := by
      push_cast
      linarith
    exact_mod_cast cast
  have high : 2 * value.significand < 10 ^ 16 + 2 := by
    have cast : ((2 * value.significand : Nat) : ℚ) < (10 ^ 16 + 2 : Nat) := by
      push_cast
      linarith
    exact_mod_cast cast
  refine ⟨⟨5 * 10 ^ 15 - value.significand, by omega⟩, ?_⟩
  obtain ⟨negative, digits, power, canonical⟩ := value
  simp only [nearTenPow, mk.injEq]
  refine ⟨positive, ?_, exponent⟩
  simp only at low high
  omega

/-- A number of sixteen places at most in front of its point, and its sign. -/
structure Positional (value : Binary64) : Prop where
  positive : value.negative = false
  small : value.shortestDecimal.leadingExponent < 16

/-- Zero has one place in front of its point. -/
theorem positional_of_significand_eq_zero (positive : value.negative = false)
    (none : value.significand = 0) : value.Positional := by
  refine ⟨positive, ?_⟩
  unfold shortestDecimal
  rw [if_pos none]
  decide

/-- The reader takes a number of sixteen places (`Positional`) to no number of more. -/
theorem Positional.reread (positional : value.Positional) : value.reread.Positional := by
  obtain ⟨positive, small⟩ := positional
  by_cases none : value.significand = 0
  · have read : (⟨['0'], some ['0'], .none⟩ : Numeral).magnitude = some (zero false) := by
      decide +kernel
    have same : value.reread = zero false := by
      unfold Binary64.reread
      rw [numeral_zero none, read, positive]
      rfl
    rw [same]
    exact positional_of_significand_eq_zero rfl rfl
  obtain ⟨-, high⟩ := size_shortestDecimal_bounds none
  have bounded : value.shortestDecimal.size < 10 ^ 16 := by
    refine high.trans_le ?_
    rw [← zpow_natCast]
    exact zpow_le_zpow_right₀ one_lt_ten.le (by push_cast; omega)
  by_cases close : 10 ^ 16 - 10 < value.shortestDecimal.size
  · obtain ⟨below, rfl⟩ := eq_nearTenPow none positive close bounded
    obtain ⟨sign, places⟩ := reread_nearTenPow below small
    exact ⟨sign, places⟩
  · have other : ∀ below, value ≠ greatest value.negative below := by
      intro below same
      obtain ⟨-, -, denotes⟩ := shortestDecimal_spec none
      have near := (abs_le.mp (denotes.trans (halfUnit_le value.shortestDecimal.size_nonneg))).2
      have half := leastHalf_le
      have few : value.exponent ≤ 1 := exponent_le_one (by
        norm_num at bounded near half ⊢
        linarith)
      rw [same] at few
      exact absurd few (show ¬ (971 : Int) ≤ 1 by decide)
    obtain ⟨read, found, sign, size⟩ := exists_magnitude_of_ne_greatest none other
    have same : value.reread = read := by
      unfold Binary64.reread
      rw [found, positive]
      rfl
    rw [same]
    by_cases zero : read.significand = 0
    · exact positional_of_significand_eq_zero sign zero
    · refine ⟨sign, leadingExponent_lt_of_size_lt zero ?_⟩
      have half := leastHalf_le
      have large : max value.shortestDecimal.size 1 ≤ 10 ^ 16 - 10 :=
        max_le (not_lt.mp close) (by norm_num)
      generalize max value.shortestDecimal.size 1 = bound at large size
      norm_num at large size half ⊢
      linarith

/-- The first digit of a number stands at some place in range. -/
theorem neg_400_le_leadingExponent (value : Binary64) :
    -400 ≤ value.shortestDecimal.leadingExponent := by
  by_cases none : value.significand = 0
  · unfold shortestDecimal
    rw [if_pos none]
    decide
  obtain ⟨-, high⟩ := size_shortestDecimal_bounds none
  obtain ⟨-, -, denotes⟩ := shortestDecimal_spec none
  have near := (abs_le.mp denotes).2
  have least := two_zpow_le_size none
  have far := ten_zpow_le_least
  have half := leastHalf_eq
  have positive := leastHalf_pos
  have nonneg := value.shortestDecimal.size_nonneg
  have reaches : leastHalf ≤ value.shortestDecimal.size := by
    rcases le_total (value.shortestDecimal.size / 2 ^ 53) leastHalf with tiny | large
    · rw [halfUnit, max_eq_right tiny] at near
      linarith
    · norm_num at large
      linarith
  have powers : (10 : ℚ) ^ (-400 : Int) < 10 ^ (value.shortestDecimal.leadingExponent + 1) := by
    linarith
  have exponents := (zpow_lt_zpow_iff_right₀ one_lt_ten).mp powers
  omega

/-- The text of a number of few places is short. -/
theorem Positional.length_chars_le {value : Binary64} (positional : value.Positional) :
    value.numeral.chars.length ≤ 64 := by
  have few := value.length_digits_le
  have low := value.neg_400_le_leadingExponent
  have high := positional.small
  have exponents : (Nat.toDigits 10 value.shortestDecimal.leadingExponent.natAbs).length ≤ 3 :=
    decimalLength_le (by decide) (by omega)
  unfold numeral
  dsimp only
  split
  · rename_i range
    have least : -5 ≤ value.shortestDecimal.leadingExponent := range.1
    split
    · simp [Numeral.chars]
      omega
    · split <;> simp [Numeral.chars] <;> omega
  · split <;> simp [Numeral.chars] <;> omega

end OfflineSync.Binary64
