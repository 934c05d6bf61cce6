import OfflineSync.Binary64.Basic

/-!
# Products and quotients of double-precision numbers

Each operation, `mul` and `div`, rounds the exact result once, to the nearest number. Scaling a
number by a power of ten, `scaleDecimal`, goes through the rounded power `powerOfTen`, so the
outcome of a scaling may differ from the number nearest to the scaled value.
-/

namespace OfflineSync.Binary64

/-- The number nearest to a quotient that may be zero. -/
def ofQuotient (negative : Bool) (numerator denominator : Nat) : Option Binary64 :=
  if numerator = 0 then some (zero negative) else ofRatio negative numerator denominator

/-- The number nearest to a natural number. -/
def ofNat (value : Nat) : Option Binary64 :=
  ofQuotient false value 1

/-- The rounded product of two numbers, or nothing when it overflows. -/
def mul (left right : Binary64) : Option Binary64 :=
  let (leftTop, leftBottom) := left.magnitude
  let (rightTop, rightBottom) := right.magnitude
  ofQuotient (left.negative != right.negative) (leftTop * rightTop) (leftBottom * rightBottom)

/-- The rounded quotient of two numbers, or nothing when it overflows. Nothing
is divided by zero. -/
def div (left right : Binary64) : Option Binary64 :=
  let (leftTop, leftBottom) := left.magnitude
  let (rightTop, rightBottom) := right.magnitude
  if rightTop = 0 then none
  else ofQuotient (left.negative != right.negative) (leftTop * rightBottom) (leftBottom * rightTop)

/-- The exponent of the greatest power of ten in range. -/
def greatestPower : Nat := 308

/-- The number nearest to a power of ten. -/
def powerOfTen (exponent : Nat) : Option Binary64 :=
  ofDecimal false 1 exponent

/-- A number multiplied by one power of ten, or nothing when the power or the
product is out of range. Zero stays zero. -/
def mulPowerOfTen (value : Binary64) (places : Nat) : Option Binary64 :=
  if places ≤ greatestPower then (powerOfTen places).bind value.mul
  else if value.significand = 0 then some value
  else none

/-- A number divided by the greatest power of ten in range, `count` times or
until nothing is left. -/
def divGreatestPower : Nat → Binary64 → Option Binary64
  | 0, value => some value
  | count + 1, value =>
    if value.significand = 0 then some value
    else (powerOfTen greatestPower).bind fun power =>
      (value.div power).bind (divGreatestPower count)

/-- A number divided by a power of ten. As long as more places are left than the
greatest power in range has, that one divides; the power of the remaining places
comes last. -/
def divPowerOfTen (value : Binary64) (places : Nat) : Option Binary64 :=
  let count := (places - 1) / greatestPower
  (divGreatestPower count value).bind fun quotient =>
    (powerOfTen (places - count * greatestPower)).bind quotient.div

/-- A number scaled by a power of ten. -/
def scaleDecimal (value : Binary64) (places : Int) : Option Binary64 :=
  if 0 ≤ places then value.mulPowerOfTen places.toNat else value.divPowerOfTen (-places).toNat

end OfflineSync.Binary64
