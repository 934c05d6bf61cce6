/-!
# Double-precision numbers as exact data

A finite double-precision number, `Binary64`, is a sign, a significand and a power of two. This
module holds the triples that are `Canonical` and the rounding of an exact decimal to the nearest
one, `ofDecimal`, by way of the quotient that `ofRatio` rounds. All arithmetic is on natural
numbers, so no result depends on the machine.
-/

namespace OfflineSync

/-- The significand and the exponent of a finite number in canonical form: the
significand has at most 53 bits, and fewer only at the least exponent. -/
def Binary64.Canonical (significand : Nat) (exponent : Int) : Prop :=
  significand < Nat.pow 2 53 ∧ -1074 ≤ exponent ∧ exponent ≤ 971 ∧
    (Nat.pow 2 52 ≤ significand ∨ exponent = -1074)

instance (significand : Nat) (exponent : Int) :
    Decidable (Binary64.Canonical significand exponent) := by
  unfold Binary64.Canonical
  infer_instance

/-- A finite double-precision number: `significand * 2 ^ exponent`, negated when
`negative` is set. Zero keeps its sign. -/
structure Binary64 where
  /-- Whether the sign bit is set. -/
  negative : Bool
  /-- The integral significand. -/
  significand : Nat
  /-- The power of two that scales the significand. -/
  exponent : Int
  /-- Each number has one representation. -/
  canonical : Binary64.Canonical significand exponent
  deriving DecidableEq, Repr

namespace Binary64

/-- The zero of either sign. -/
def zero (negative : Bool) : Binary64 :=
  ⟨negative, 0, -1074, by decide⟩

instance : Inhabited Binary64 := ⟨zero false⟩

/-- A number with its sign changed. -/
def neg (value : Binary64) : Binary64 :=
  { value with negative := !value.negative }

/-- The magnitude of a number as an exact quotient. -/
def magnitude (value : Binary64) : Nat × Nat :=
  if 0 ≤ value.exponent then (value.significand * Nat.pow 2 value.exponent.toNat, 1)
  else (value.significand, Nat.pow 2 (-value.exponent).toNat)

/-- The quotient of two natural numbers rounded to the nearest integer, a half
going to the even neighbour. -/
def roundQuotient (numerator denominator : Nat) : Nat :=
  let quotient := numerator / denominator
  let doubled := 2 * (numerator % denominator)
  if doubled < denominator then quotient
  else if denominator < doubled then quotient + 1
  else if quotient % 2 = 0 then quotient
  else quotient + 1

/-- The numerator and denominator of a quotient divided by a power of two. -/
def scaleDown (numerator denominator : Nat) (exponent : Int) : Nat × Nat :=
  if 0 ≤ exponent then (numerator, denominator * Nat.pow 2 exponent.toNat)
  else (numerator * Nat.pow 2 (-exponent).toNat, denominator)

/-- The exponent at which a positive quotient has a 53-bit integral part, or the
least exponent where the quotient is too small for that. -/
def exponentOf (numerator denominator : Nat) : Int :=
  let estimate : Int := max ((numerator.log2 : Int) - denominator.log2 - 53) (-1074)
  let (top, bottom) := scaleDown numerator denominator estimate
  if Nat.pow 2 53 ≤ top / bottom then estimate + 1 else estimate

/-- The number nearest to a quotient, ties to the even significand, or nothing
when it lies beyond the largest finite number. -/
def ofRatio (negative : Bool) (numerator denominator : Nat) : Option Binary64 :=
  let exponent := exponentOf numerator denominator
  let (top, bottom) := scaleDown numerator denominator exponent
  let rounded := roundQuotient top bottom
  let significand := if rounded = Nat.pow 2 53 then Nat.pow 2 52 else rounded
  let exponent := if rounded = Nat.pow 2 53 then exponent + 1 else exponent
  if canonical : Canonical significand exponent then
    some ⟨negative, significand, exponent, canonical⟩
  else none

/-- The number of decimal digits of a natural number. -/
def decimalLength (value : Nat) : Nat :=
  (Nat.toDigits 10 value).length

/-- The number nearest to `digits * 10 ^ scale`, or nothing when it overflows.
Decimals far outside the representable range are decided by their magnitude
alone. -/
def ofDecimal (negative : Bool) (digits : Nat) (scale : Int) : Option Binary64 :=
  if digits = 0 then some (zero negative)
  else
    let magnitude := scale + decimalLength digits
    if 310 < magnitude then none
    else if magnitude < -400 then some (zero negative)
    else if 0 ≤ scale then ofRatio negative (digits * Nat.pow 10 scale.toNat) 1
    else ofRatio negative digits (Nat.pow 10 (-scale).toNat)

end Binary64

end OfflineSync
