import OfflineSync.Binary64.Basic

/-!
# Shortest decimals of double-precision numbers

The decimal of a number, `shortestDecimal`, is the one with the fewest digits that rounds back to
it, and the nearest of those. Reading back, `Decimal.readsBack`, is part of the search, so a
decimal that this module gives always denotes the number it came from. `render` writes it in
positional or scientific form.
-/

namespace OfflineSync.Binary64

/-- A positive decimal `digits * 10 ^ scale`. -/
structure Decimal where
  /-- The digits as one integer. -/
  digits : Nat
  /-- The power of ten of the last digit. -/
  scale : Int
  deriving DecidableEq, Repr

/-- Whether a decimal rounds back to a number. -/
def Decimal.readsBack (decimal : Decimal) (value : Binary64) : Bool :=
  ofDecimal value.negative decimal.digits decimal.scale == some value

/-- The magnitude of a number in units of `10 ^ scale`, as an exact quotient. -/
def inUnits (value : Binary64) (scale : Int) : Nat × Nat :=
  let (top, bottom) := value.magnitude
  if 0 ≤ scale then (top, bottom * Nat.pow 10 scale.toNat)
  else (top * Nat.pow 10 (-scale).toNat, bottom)

/-- The nearest decimal on the grid of `10 ^ scale` that reads back, if one of
the number's two neighbours on that grid does; a tie goes to the even digit. -/
def onGrid (value : Binary64) (scale : Int) : Option Decimal :=
  let (top, bottom) := value.inUnits scale
  let below : Decimal := ⟨top / bottom, scale⟩
  let above : Decimal := ⟨top / bottom + 1, scale⟩
  match below.readsBack value, above.readsBack value with
  | true, true => some (if roundQuotient top bottom = below.digits then below else above)
  | true, false => some below
  | false, true => some above
  | false, false => none

/-- The power of ten just above the magnitude of a number that is not zero. -/
def decimalExponent (value : Binary64) : Int :=
  let (top, bottom) := value.magnitude
  if bottom ≤ top then decimalLength (top / bottom)
  else
    -- Below one, the quotient's inverse tells how many places follow the point.
    let places := decimalLength (bottom / top)
    if top * Nat.pow 10 (places - 1) < bottom then 1 - (places : Int) else 2 - (places : Int)

/-- A decimal with the same value that does not end in zero. -/
def Decimal.trim (decimal : Decimal) : Decimal :=
  shorten (decimalLength decimal.digits) decimal
where
  shorten : Nat → Decimal → Decimal
  | 0, decimal => decimal
  | steps + 1, decimal =>
    if decimal.digits % 10 = 0 ∧ decimal.digits ≠ 0 then
      shorten steps ⟨decimal.digits / 10, decimal.scale + 1⟩
    else decimal

/-- The complete decimal expansion of a number's magnitude. -/
def exactDecimal (value : Binary64) : Decimal :=
  if 0 ≤ value.exponent then ⟨value.significand * Nat.pow 2 value.exponent.toNat, 0⟩
  else ⟨value.significand * Nat.pow 5 (-value.exponent).toNat, value.exponent⟩

/-- The decimal with the fewest digits that reads back as the number. Seventeen
digits always suffice; the complete expansion stands in where they did not. -/
def shortestDecimal (value : Binary64) : Decimal :=
  if value.significand = 0 then ⟨0, 0⟩
  else
    let top := value.decimalExponent
    match (List.range' 1 17).findSome? fun count => value.onGrid (top - (count : Nat)) with
    | some decimal => decimal.trim
    | none => value.exactDecimal.trim

/-- How the exponent of a number decides between positional and scientific text. -/
structure Format where
  /-- The least exponent of the first digit that is written positionally. -/
  leastPositional : Int
  /-- The first exponent that is too large to be written positionally. -/
  firstScientific : Int
  /-- What marks the exponent of scientific text. -/
  exponentMark : Char
  deriving Repr

/-- The exponent of the first digit of a decimal. -/
def Decimal.leadingExponent (decimal : Decimal) : Int :=
  decimal.scale + decimalLength decimal.digits - 1

/-- Digits with a point behind the first `whole` of them; zeros fill a missing
place on either side, and at least one digit follows the point. -/
def positional (digits : List Char) (whole : Int) : List Char :=
  if whole ≤ 0 then '0' :: '.' :: (List.replicate (-whole).toNat '0' ++ digits)
  else
    let count := whole.toNat
    let fraction := digits.drop count
    digits.take count ++ List.replicate (count - digits.length) '0' ++
      '.' :: (if fraction.isEmpty then ['0'] else fraction)

/-- The first digit, the others behind a point, and the signed exponent. -/
def scientific (mark : Char) (digits : List Char) (exponent : Int) : List Char :=
  let mantissa := match digits with
    | first :: second :: rest => first :: '.' :: second :: rest
    | _ => digits
  let sign := if exponent < 0 then '-' else '+'
  mantissa ++ mark :: sign :: Nat.toDigits 10 exponent.natAbs

/-- The text of a number: its shortest decimal in the given format. -/
def render (format : Format) (value : Binary64) : List Char :=
  let decimal := value.shortestDecimal
  let digits := Nat.toDigits 10 decimal.digits
  let exponent := decimal.leadingExponent
  let magnitude :=
    if format.leastPositional ≤ exponent ∧ exponent < format.firstScientific then
      positional digits (exponent + 1)
    else scientific format.exponentMark digits exponent
  if value.negative then '-' :: magnitude else magnitude

end OfflineSync.Binary64
