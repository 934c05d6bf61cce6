import Mathlib.Algebra.Order.Field.Power
import Mathlib.Algebra.Order.Field.Rat
import Mathlib.Data.Int.Log
import Mathlib.Data.Rat.Cast.Order
import Mathlib.Data.Rat.Floor
import Mathlib.Tactic.FieldSimp
import Mathlib.Tactic.Linarith
import Mathlib.Tactic.NormNum
import Mathlib.Tactic.Positivity
import Mathlib.Tactic.Ring
import OfflineSync.Binary64.Basic

/-!
# Rounding to the nearest number

The `size` of a number is the rational that it stands for. A quotient is brought to the exponent at
which its integral part has 53 bits and rounded there, so rounding moves it by half a unit at most,
`ofRatio_error`, and a quotient that is near enough to a number rounds to that number,
`ofRatio_eq_of_near`.
-/

namespace OfflineSync.Binary64

/-- The magnitude of a number as a rational. -/
def size (value : Binary64) : ℚ :=
  value.significand * 2 ^ value.exponent

theorem size_nonneg (value : Binary64) : 0 ≤ value.size := by
  unfold size
  positivity

/-- The bounds of a significand and an exponent. -/
theorem bounds (value : Binary64) :
    value.significand < 2 ^ 53 ∧ -1074 ≤ value.exponent ∧ value.exponent ≤ 971 ∧
      (2 ^ 52 ≤ value.significand ∨ value.exponent = -1074) :=
  value.canonical

/-- The quotient that is scaled down is divided by the power of two. -/
theorem scaleDown_eq (numerator denominator : Nat) (exponent : Int) :
    ((scaleDown numerator denominator exponent).1 : ℚ) /
        (scaleDown numerator denominator exponent).2 =
      numerator / denominator / 2 ^ exponent := by
  unfold scaleDown
  simp only [Nat.pow_eq]
  split
  · rename_i nonneg
    obtain ⟨power, rfl⟩ := Int.eq_ofNat_of_zero_le nonneg
    push_cast
    rw [Int.toNat_natCast, zpow_natCast, div_div]
  · rename_i negative
    obtain ⟨power, rfl⟩ : ∃ power : Nat, exponent = -(power : Int) :=
      ⟨(-exponent).toNat, by omega⟩
    push_cast
    rw [neg_neg, Int.toNat_natCast, zpow_neg, zpow_natCast, div_inv_eq_mul, mul_div_right_comm]

theorem scaleDown_pos {denominator : Nat} (positive : 0 < denominator) (numerator : Nat)
    (exponent : Int) : 0 < (scaleDown numerator denominator exponent).2 := by
  unfold scaleDown
  simp only [Nat.pow_eq]
  split <;> positivity

/-- A quotient rounded by `roundQuotient` is half a unit from the quotient at most. -/
theorem roundQuotient_near {denominator : Nat} (positive : 0 < denominator) (numerator : Nat) :
    |(roundQuotient numerator denominator : ℚ) - numerator / denominator| ≤ 1 / 2 := by
  have bottom : (0 : ℚ) < denominator := by exact_mod_cast positive
  have divided : (numerator : ℚ) =
      denominator * (numerator / denominator : Nat) + (numerator % denominator : Nat) := by
    exact_mod_cast (Nat.div_add_mod numerator denominator).symm
  have fraction : (numerator : ℚ) / denominator =
      (numerator / denominator : Nat) + (numerator % denominator : Nat) / denominator := by
    rw [div_eq_iff bottom.ne', add_mul, div_mul_cancel₀ _ bottom.ne', mul_comm]
    exact divided
  have below (half : 2 * (numerator % denominator) ≤ denominator) :
      |((numerator / denominator : Nat) : ℚ) - numerator / denominator| ≤ 1 / 2 := by
    have half : 2 * ((numerator % denominator : Nat) : ℚ) ≤ denominator := by exact_mod_cast half
    rw [fraction, sub_add_cancel_left, abs_neg, abs_of_nonneg (by positivity), div_le_iff₀ bottom]
    linarith
  have above (half : denominator ≤ 2 * (numerator % denominator)) :
      |((numerator / denominator + 1 : Nat) : ℚ) - numerator / denominator| ≤ 1 / 2 := by
    have half : (denominator : ℚ) ≤ 2 * (numerator % denominator : Nat) := by exact_mod_cast half
    have remains : ((numerator % denominator : Nat) : ℚ) < denominator := by
      exact_mod_cast Nat.mod_lt numerator positive
    have ratio : ((numerator % denominator : Nat) : ℚ) / denominator < 1 := by
      rwa [div_lt_one bottom]
    have least : 1 / 2 ≤ ((numerator % denominator : Nat) : ℚ) / denominator := by
      rw [le_div_iff₀ bottom]
      linarith
    rw [fraction, Nat.cast_add, Nat.cast_one, add_sub_add_left_eq_sub,
      abs_of_nonneg (by linarith)]
    linarith
  unfold roundQuotient
  dsimp only
  split
  · exact below (by omega)
  · split
    · exact above (by omega)
    · split
      · exact below (by omega)
      · exact above (by omega)

/-- A quotient less than half a unit from a natural number is rounded to it. -/
theorem roundQuotient_eq {denominator : Nat} (positive : 0 < denominator) {numerator nearest : Nat}
    (near : |(numerator : ℚ) / denominator - nearest| < 1 / 2) :
    roundQuotient numerator denominator = nearest := by
  have rounded := roundQuotient_near positive numerator
  have close : |(roundQuotient numerator denominator : ℚ) - nearest| < 1 := by
    rw [abs_le] at rounded
    rw [abs_lt] at near ⊢
    constructor <;> linarith
  have whole : |(roundQuotient numerator denominator : Int) - nearest| < 1 := by exact_mod_cast close
  rw [Int.abs_lt_one_iff] at whole
  omega

/-- A quotient lies between the powers of two that the lengths of its parts tell. -/
theorem quotient_bounds {numerator denominator : Nat} (top : 0 < numerator)
    (bottom : 0 < denominator) :
    (2 : ℚ) ^ ((numerator.log2 : Int) - denominator.log2 - 1) ≤ (numerator : ℚ) / denominator ∧
      (numerator : ℚ) / denominator < 2 ^ ((numerator.log2 : Int) - denominator.log2 + 1) := by
  have positive : (0 : ℚ) < denominator := by exact_mod_cast bottom
  have topLow : (2 : ℚ) ^ numerator.log2 ≤ numerator := by
    exact_mod_cast Nat.log2_self_le top.ne'
  have topHigh : (numerator : ℚ) < 2 ^ (numerator.log2 + 1) := by
    exact_mod_cast Nat.lt_log2_self
  have bottomLow : (2 : ℚ) ^ denominator.log2 ≤ denominator := by
    exact_mod_cast Nat.log2_self_le bottom.ne'
  have bottomHigh : (denominator : ℚ) < 2 ^ (denominator.log2 + 1) := by
    exact_mod_cast Nat.lt_log2_self
  constructor
  · have power : (2 : ℚ) ^ ((numerator.log2 : Int) - denominator.log2 - 1) =
        2 ^ numerator.log2 / 2 ^ (denominator.log2 + 1) := by
      rw [sub_sub, zpow_sub₀ two_ne_zero, zpow_natCast]
      exact_mod_cast rfl
    rw [power, div_le_div_iff₀ (by positivity) positive]
    gcongr
  · have power : (2 : ℚ) ^ ((numerator.log2 : Int) - denominator.log2 + 1) =
        2 ^ (numerator.log2 + 1) / 2 ^ denominator.log2 := by
      rw [sub_add_eq_add_sub, zpow_sub₀ two_ne_zero, zpow_natCast]
      exact_mod_cast rfl
    rw [power, div_lt_div_iff₀ positive (by positivity)]
    calc (numerator : ℚ) * 2 ^ denominator.log2
        < 2 ^ (numerator.log2 + 1) * 2 ^ denominator.log2 := by gcongr
      _ ≤ 2 ^ (numerator.log2 + 1) * denominator := by gcongr

/-- The exponent of a quotient is that of its leading bit, fifty-two places down, or
the least one. -/
theorem exponentOf_eq {numerator denominator : Nat} (top : 0 < numerator) (bottom : 0 < denominator) :
    exponentOf numerator denominator =
      max (Int.log 2 ((numerator : ℚ) / denominator) - 52) (-1074) := by
  have positive : (0 : ℚ) < numerator / denominator := by positivity
  obtain ⟨lower, upper⟩ := quotient_bounds top bottom
  rw [← Nat.cast_two] at lower upper
  rw [Int.zpow_le_iff_le_log one_lt_two positive] at lower
  rw [Int.lt_zpow_iff_log_lt one_lt_two positive] at upper
  -- The estimate is one too low where the scaled quotient has a bit too many.
  have carries (exponent : Int) :
      2 ^ 53 ≤ (scaleDown numerator denominator exponent).1 /
          (scaleDown numerator denominator exponent).2 ↔
        exponent + 53 ≤ Int.log 2 ((numerator : ℚ) / denominator) := by
    have scaled := scaleDown_pos bottom numerator exponent
    rw [← Int.zpow_le_iff_le_log one_lt_two positive, Nat.le_div_iff_mul_le scaled,
      zpow_add₀ (by norm_num), ← le_div_iff₀' (by positivity), Nat.cast_two, ← scaleDown_eq,
      le_div_iff₀ (by exact_mod_cast scaled)]
    exact_mod_cast Iff.rfl
  unfold exponentOf
  simp only [Nat.pow_eq, carries]
  split <;> omega

section OfRatio

variable {negative : Bool} {numerator denominator : Nat} {value : Binary64}

/-- The integral part that a quotient is rounded to at its exponent. -/
def roundedPart (numerator denominator : Nat) : Nat :=
  let scaled := scaleDown numerator denominator (exponentOf numerator denominator)
  roundQuotient scaled.1 scaled.2

/-- The integral part, `roundedPart`, is half a unit from the scaled quotient at most. -/
theorem roundedPart_near (numerator : Nat) (bottom : 0 < denominator) :
    |(roundedPart numerator denominator : ℚ) -
        numerator / denominator / 2 ^ exponentOf numerator denominator| ≤ 1 / 2 := by
  rw [← scaleDown_eq]
  exact roundQuotient_near (scaleDown_pos bottom _ _) _

/-- A rounded number has the sign that was asked for, and the integral part as its
significand, unless rounding carried into a further bit. -/
theorem ofRatio_eq_some :
    ofRatio negative numerator denominator = some value ↔
      value.negative = negative ∧
        value.significand = (if roundedPart numerator denominator = 2 ^ 53 then 2 ^ 52
          else roundedPart numerator denominator) ∧
        value.exponent = (if roundedPart numerator denominator = 2 ^ 53
          then exponentOf numerator denominator + 1 else exponentOf numerator denominator) := by
  unfold ofRatio
  simp only [Option.dite_none_right_eq_some, Option.some.injEq]
  constructor
  · rintro ⟨canonical, rfl⟩
    exact ⟨rfl, rfl, rfl⟩
  · obtain ⟨sign, significand, exponent, canonical⟩ := value
    rintro ⟨rfl, rfl, rfl⟩
    exact ⟨canonical, rfl⟩

/-- The size of a rounded number is the integral part at the exponent. -/
theorem size_of_ofRatio (rounded : ofRatio negative numerator denominator = some value) :
    value.size = roundedPart numerator denominator * 2 ^ exponentOf numerator denominator := by
  obtain ⟨-, significand, exponent⟩ := ofRatio_eq_some.mp rounded
  rw [size, significand, exponent]
  split
  · rename_i carried
    rw [carried, zpow_add₀ two_ne_zero]
    push_cast
    ring
  · rfl

/-- Rounding by `ofRatio` moves a quotient by half a unit at most. -/
theorem ofRatio_near (bottom : 0 < denominator)
    (rounded : ofRatio negative numerator denominator = some value) :
    |value.size - numerator / denominator| ≤ (2 : ℚ) ^ exponentOf numerator denominator / 2 := by
  have unit : (0 : ℚ) < 2 ^ exponentOf numerator denominator := by positivity
  have near := roundedPart_near numerator bottom
  have scaled : value.size - numerator / denominator =
      ((roundedPart numerator denominator : ℚ) -
        numerator / denominator / 2 ^ exponentOf numerator denominator) *
          2 ^ exponentOf numerator denominator := by
    rw [size_of_ofRatio rounded, sub_mul, div_mul_cancel₀ _ unit.ne']
  rw [scaled, abs_mul, abs_of_pos unit]
  calc _ ≤ 1 / 2 * (2 : ℚ) ^ exponentOf numerator denominator := by gcongr
    _ = 2 ^ exponentOf numerator denominator / 2 := by ring

/-- No exponent that `exponentOf` gives is below the least. -/
theorem le_exponentOf (top : 0 < numerator) (bottom : 0 < denominator) :
    -1074 ≤ exponentOf numerator denominator := by
  rw [exponentOf_eq top bottom]
  exact le_max_right _ _

/-- A quotient has fifty-three bits at most at its exponent. -/
theorem lt_two_zpow_exponentOf (top : 0 < numerator) (bottom : 0 < denominator) :
    (numerator : ℚ) / denominator < 2 ^ (exponentOf numerator denominator + 53) := by
  have above := Int.lt_zpow_succ_log_self (R := ℚ) one_lt_two (numerator / denominator)
  push_cast at above
  refine above.trans_le (zpow_le_zpow_right₀ one_le_two ?_)
  rw [exponentOf_eq top bottom]
  omega

/-- A quotient has fifty-three bits at its exponent, unless that is the least one. -/
theorem two_zpow_exponentOf_le_quotient (top : 0 < numerator) (bottom : 0 < denominator)
    (normal : exponentOf numerator denominator ≠ -1074) :
    (2 : ℚ) ^ (exponentOf numerator denominator + 52) ≤ numerator / denominator := by
  have positive : (0 : ℚ) < numerator / denominator := by positivity
  have below := Int.zpow_log_le_self one_lt_two positive
  push_cast at below
  refine le_trans (zpow_le_zpow_right₀ one_le_two ?_) below
  rw [exponentOf_eq top bottom] at normal ⊢
  omega

/-- The integral part has fifty-three bits at most, or is the next power of two. -/
theorem roundedPart_le (top : 0 < numerator) (bottom : 0 < denominator) :
    roundedPart numerator denominator ≤ 2 ^ 53 := by
  have unit : (0 : ℚ) < 2 ^ exponentOf numerator denominator := by positivity
  have near := (abs_le.mp (roundedPart_near numerator bottom)).2
  have scaled : (numerator : ℚ) / denominator / 2 ^ exponentOf numerator denominator < 2 ^ 53 := by
    rw [div_lt_iff₀ unit, mul_comm, ← zpow_natCast, ← zpow_add₀ two_ne_zero]
    exact lt_two_zpow_exponentOf top bottom
  have small : (roundedPart numerator denominator : ℚ) < 2 ^ 53 + 1 := by linarith
  have whole : roundedPart numerator denominator < 2 ^ 53 + 1 := by exact_mod_cast small
  omega

/-- The integral part has fifty-three bits, unless the exponent is the least one. -/
theorem le_roundedPart (top : 0 < numerator) (bottom : 0 < denominator)
    (normal : exponentOf numerator denominator ≠ -1074) :
    2 ^ 52 ≤ roundedPart numerator denominator := by
  have unit : (0 : ℚ) < 2 ^ exponentOf numerator denominator := by positivity
  have near := (abs_le.mp (roundedPart_near numerator bottom)).1
  have scaled : (2 : ℚ) ^ 52 ≤ numerator / denominator / 2 ^ exponentOf numerator denominator := by
    rw [le_div_iff₀ unit, mul_comm, ← zpow_natCast, ← zpow_add₀ two_ne_zero]
    exact two_zpow_exponentOf_le_quotient top bottom normal
  have large : (2 : ℚ) ^ 52 < roundedPart numerator denominator + 1 := by linarith
  have whole : 2 ^ 52 < roundedPart numerator denominator + 1 := by exact_mod_cast large
  omega

/-- The middle between the largest number and the next power of two. -/
@[irreducible] def limit : ℚ := (2 ^ 54 - 1) * 2 ^ (970 : Int)

/-- At the greatest exponent, a quotient below the limit does not carry. -/
theorem roundedPart_lt (bottom : 0 < denominator)
    (bounded : (numerator : ℚ) / denominator < limit)
    (greatest : exponentOf numerator denominator = 971) :
    roundedPart numerator denominator < 2 ^ 53 := by
  have near := (abs_le.mp (roundedPart_near numerator bottom)).2
  have half : (2 : ℚ) ^ (971 : Int) = 2 ^ (970 : Int) * 2 := zpow_add_one₀ two_ne_zero 970
  have scaled : (numerator : ℚ) / denominator / 2 ^ (971 : Int) < (2 ^ 54 - 1) / 2 := by
    rw [half, ← div_div]
    have unit : (0 : ℚ) < 2 ^ (970 : Int) := by positivity
    rw [limit] at bounded
    have divided := (div_lt_iff₀ unit).mpr bounded
    linarith
  rw [greatest] at near
  have small : (roundedPart numerator denominator : ℚ) < 2 ^ 53 := by linarith
  exact_mod_cast small

/-- A quotient below the limit is rounded by `ofRatio` to a number. -/
theorem exists_ofRatio (negative : Bool) (top : 0 < numerator) (bottom : 0 < denominator)
    (bounded : (numerator : ℚ) / denominator < limit) :
    ∃ value, ofRatio negative numerator denominator = some value := by
  have least := le_exponentOf top bottom
  have part := roundedPart_le top bottom
  have greatest : exponentOf numerator denominator ≤ 971 := by
    by_contra beyond
    have above := two_zpow_exponentOf_le_quotient top bottom (by omega)
    have power : (2 : ℚ) ^ (1024 : Int) ≤ 2 ^ (exponentOf numerator denominator + 52) :=
      zpow_le_zpow_right₀ one_le_two (by omega)
    have split : (2 : ℚ) ^ (1024 : Int) = 2 ^ 54 * 2 ^ (970 : Int) := zpow_add₀ two_ne_zero 54 970
    have smaller : ((2 : ℚ) ^ 54 - 1) * 2 ^ (970 : Int) < 2 ^ 54 * 2 ^ (970 : Int) :=
      mul_lt_mul_of_pos_right (by norm_num) (by positivity)
    rw [limit] at bounded
    exact absurd (power.trans above) (not_le.mpr (split ▸ bounded.trans smaller))
  have canonical : Canonical
      (if roundedPart numerator denominator = 2 ^ 53 then 2 ^ 52 else roundedPart numerator denominator)
      (if roundedPart numerator denominator = 2 ^ 53 then exponentOf numerator denominator + 1
        else exponentOf numerator denominator) := by
    have full := le_roundedPart top bottom
    have carries := roundedPart_lt bottom bounded
    unfold Canonical
    simp only [Nat.pow_eq]
    split <;> omega
  exact ⟨⟨negative, _, _, canonical⟩, ofRatio_eq_some.mpr ⟨rfl, rfl, rfl⟩⟩

/-- The exponent of a quotient near a number is that of the number, or one below it
where the number is a power of two. -/
theorem exponentOf_of_near (top : 0 < numerator) (bottom : 0 < denominator)
    (near : |(numerator : ℚ) / denominator - value.size| < value.size / 2 ^ 54) :
    exponentOf numerator denominator = value.exponent ∨
      exponentOf numerator denominator = value.exponent - 1 ∧ 2 ^ 52 ≤ value.significand := by
  obtain ⟨short, least, -, full⟩ := value.bounds
  have lowest := le_exponentOf top bottom
  have unit : (0 : ℚ) < 2 ^ value.exponent := by positivity
  rw [abs_lt] at near
  have upper : exponentOf numerator denominator ≤ value.exponent := by
    by_contra beyond
    have above := two_zpow_exponentOf_le_quotient top bottom (by omega)
    have power : (2 : ℚ) ^ (value.exponent + 53) ≤ 2 ^ (exponentOf numerator denominator + 52) :=
      zpow_le_zpow_right₀ one_le_two (by omega)
    have split : (2 : ℚ) ^ (value.exponent + 53) = 2 ^ value.exponent * 2 ^ 53 :=
      zpow_add₀ two_ne_zero value.exponent 53
    have significand : (value.significand : ℚ) ≤ 2 ^ 53 - 1 := by
      have whole : value.significand + 1 ≤ 2 ^ 53 := short
      have cast : (value.significand : ℚ) + 1 ≤ 2 ^ 53 := by exact_mod_cast whole
      linarith
    have size : value.size ≤ (2 ^ 53 - 1) * 2 ^ value.exponent := by
      unfold size
      gcongr
    linarith
  by_cases same : exponentOf numerator denominator = value.exponent
  · exact .inl same
  · right
    have leading : 2 ^ 52 ≤ value.significand := by omega
    refine ⟨?_, leading⟩
    by_contra beyond
    have below := lt_two_zpow_exponentOf top bottom
    have power : (2 : ℚ) ^ (exponentOf numerator denominator + 53) ≤ 2 ^ (value.exponent + 51) :=
      zpow_le_zpow_right₀ one_le_two (by omega)
    have split : (2 : ℚ) ^ (value.exponent + 51) = 2 ^ value.exponent * 2 ^ 51 :=
      zpow_add₀ two_ne_zero value.exponent 51
    have significand : (2 : ℚ) ^ 52 ≤ value.significand := by exact_mod_cast leading
    have size : 2 ^ 52 * 2 ^ value.exponent ≤ value.size := by
      unfold Binary64.size
      gcongr
    linarith

/-- A quotient that is nearer to a number than half its unit is rounded to it. -/
theorem ofRatio_eq_of_near (top : 0 < numerator) (bottom : 0 < denominator)
    (near : |(numerator : ℚ) / denominator - value.size| < value.size / 2 ^ 54) :
    ofRatio value.negative numerator denominator = some value := by
  have short : value.significand < 2 ^ 53 := value.bounds.1
  have significand : (value.significand : ℚ) < 2 ^ 53 := by exact_mod_cast short
  have unit : (0 : ℚ) < 2 ^ exponentOf numerator denominator := by positivity
  have scaled : |(numerator : ℚ) / denominator / 2 ^ exponentOf numerator denominator -
      value.size / 2 ^ exponentOf numerator denominator| <
        value.size / 2 ^ exponentOf numerator denominator / 2 ^ 54 := by
    rw [← sub_div, abs_div, abs_of_pos unit, div_right_comm]
    gcongr
  have part {nearest : Nat} (close : |(numerator : ℚ) / denominator /
      2 ^ exponentOf numerator denominator - nearest| < 1 / 2) :
      roundedPart numerator denominator = nearest := by
    rw [← scaleDown_eq] at close
    exact roundQuotient_eq (scaleDown_pos bottom _ _) close
  rcases exponentOf_of_near top bottom near with same | ⟨lower, leading⟩
  · have rounded : roundedPart numerator denominator = value.significand := by
      have whole : value.size / 2 ^ exponentOf numerator denominator = value.significand := by
        rw [same, size, mul_div_cancel_right₀ _ (by positivity)]
      rw [whole] at scaled
      exact part (by linarith)
    refine ofRatio_eq_some.mpr ⟨rfl, ?_, ?_⟩
    · rw [rounded, if_neg short.ne]
    · rw [rounded, if_neg short.ne, same]
  · have whole : value.size / 2 ^ exponentOf numerator denominator = 2 * value.significand := by
      rw [lower, size, zpow_sub_one₀ two_ne_zero]
      field_simp
    rw [whole] at scaled
    -- Fifty-three bits leave room for one such significand only.
    have power : value.significand = 2 ^ 52 := by
      have below : (numerator : ℚ) / denominator / 2 ^ exponentOf numerator denominator < 2 ^ 53 := by
        rw [div_lt_iff₀ unit, mul_comm, ← zpow_natCast, ← zpow_add₀ two_ne_zero]
        exact lt_two_zpow_exponentOf top bottom
      have small : (value.significand : ℚ) < 2 ^ 52 + 1 := by
        have close := (abs_lt.mp scaled).1
        linarith
      have whole : value.significand < 2 ^ 52 + 1 := by exact_mod_cast small
      omega
    have rounded : roundedPart numerator denominator = 2 ^ 53 := by
      rw [power] at scaled
      push_cast at scaled
      refine part ?_
      push_cast
      norm_num at scaled ⊢
      exact scaled
    refine ofRatio_eq_some.mpr ⟨rfl, ?_, ?_⟩
    · rw [rounded, if_pos rfl, power]
    · rw [rounded, if_pos rfl, lower, sub_add_cancel]

/-- The unit of a quotient is small against it, or is the least one. -/
theorem two_zpow_exponentOf_le (top : 0 < numerator) (bottom : 0 < denominator) :
    (2 : ℚ) ^ exponentOf numerator denominator ≤
      max ((numerator : ℚ) / denominator / 2 ^ 52) (2 ^ (-1074 : Int)) := by
  have positive : (0 : ℚ) < numerator / denominator := by positivity
  rw [exponentOf_eq top bottom]
  rcases le_total (Int.log 2 ((numerator : ℚ) / denominator) - 52) (-1074) with least | normal
  · rw [max_eq_right least]
    exact le_max_right _ _
  · rw [max_eq_left normal]
    refine le_max_of_le_left ?_
    have leading := Int.zpow_log_le_self one_lt_two positive
    rw [zpow_sub₀ two_ne_zero]
    exact div_le_div_of_nonneg_right (by exact_mod_cast leading) (by positivity)

/-- Half the least unit. -/
@[irreducible] def leastHalf : ℚ := 2 ^ (-1075 : Int)

theorem leastHalf_eq : leastHalf = 2 ^ (-1074 : Int) / 2 := by
  rw [leastHalf]
  have halved : (2 : ℚ) ^ ((-1074 : Int) - 1) = 2 ^ (-1074 : Int) * 2⁻¹ :=
    zpow_sub_one₀ two_ne_zero (-1074)
  exact halved

theorem leastHalf_pos : 0 < leastHalf := by
  rw [leastHalf]
  positivity

/-- Half a unit of a quotient, which is the largest error of rounding it. -/
def halfUnit (quotient : ℚ) : ℚ := max (quotient / 2 ^ 53) leastHalf

/-- Rounding moves a quotient by a relative error of half a unit, or by half the least unit. -/
theorem ofRatio_error (top : 0 < numerator) (bottom : 0 < denominator)
    (rounded : ofRatio negative numerator denominator = some value) :
    |value.size - numerator / denominator| ≤ halfUnit (numerator / denominator) := by
  refine (ofRatio_near bottom rounded).trans ?_
  rcases le_max_iff.mp (two_zpow_exponentOf_le top bottom) with normal | least
  · refine le_max_of_le_left ?_
    linarith
  · refine le_max_of_le_right ?_
    rw [leastHalf_eq]
    linarith

end OfRatio

end OfflineSync.Binary64
