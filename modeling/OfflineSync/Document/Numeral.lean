import OfflineSync.Binary64.Arithmetic
import OfflineSync.Document.Basic

/-!
# Reading numbers

A `Numeral` is read in one pass. Its leading digits, as far as they fit a 64-bit word, form the
significand, `appendDigits`; the digits behind them only move the decimal point. The significand
is rounded first and scaled by a power of ten afterwards, `scaledWord`, so a numeral of many
digits or of a far exponent may denote a neighbour of the nearest double-precision number.
-/

namespace OfflineSync

/-- The parts of a numeral behind its sign. -/
structure Numeral where
  /-- The digits in front of the point. -/
  whole : List Char
  /-- The digits behind the point, where a point is written. -/
  fraction : Option (List Char)
  /-- The power of ten behind an exponent mark, where one is written. -/
  exponent : Option Int
  deriving DecidableEq, Repr

namespace Numeral

/-- Digits appended to a word until the first that would overflow it, and the
digits from there on. -/
def appendDigits (word : Nat) : List Char → Nat × List Char
  | [] => (word, [])
  | digit :: rest =>
    let extended := word * 10 + (digit.toNat - '0'.toNat)
    if extended < Nat.pow 2 64 then appendDigits extended rest else (word, digit :: rest)

/-- The significand of a numeral and the power of ten that scales it. A digit
that is left out counts as a place in front of the point and as none behind. -/
def scaledWord (numeral : Numeral) : Nat × Int :=
  let places := numeral.fraction.getD []
  let (word, omittedWhole) := appendDigits 0 numeral.whole
  let (word, omittedPlaces) := appendDigits word places
  (word, omittedWhole.length - (places.length - omittedPlaces.length) + numeral.exponent.getD 0)

/-- The magnitude that a numeral denotes, or nothing when it overflows. -/
def magnitude (numeral : Numeral) : Option Binary64 :=
  let (word, scale) := numeral.scaledWord
  (Binary64.ofNat word).bind (·.scaleDecimal scale)

/-- The integer that a numeral denotes if it has digits in front of the point
only and its value fits 64 bits. Negative zero is no integer. -/
def integer? (negative : Bool) (numeral : Numeral) : Option Int :=
  let value := Nat.ofDigitChars 10 numeral.whole 0
  if numeral.fraction.isSome ∨ numeral.exponent.isSome then none
  else if negative then
    if value = 0 ∨ Nat.pow 2 63 < value then none else some (-value)
  else if value < Nat.pow 2 64 then some value
  else none

/-- The number that a numeral with a sign denotes. -/
def toNumber (negative : Bool) (numeral : Numeral) : Option Number :=
  match numeral.integer? negative with
  | some value => some (.integer value)
  | none => numeral.magnitude.map fun magnitude => .float (if negative then magnitude.neg else magnitude)

/-- The digits at the front of a text, which must not be empty. -/
def readDigits (text : List Char) : Option (List Char × List Char) :=
  let digits := text.takeWhile Char.isDigit
  if digits.isEmpty then none else some (digits, text.dropWhile Char.isDigit)

/-- The digits in front of the point: a lone zero, or digits that start with
another. -/
def readWhole : List Char → Option (List Char × List Char)
  | '0' :: rest => some (['0'], rest)
  | text => readDigits text

/-- The digits behind a point, where there is a point. -/
def readFraction : List Char → Option (Option (List Char) × List Char)
  | '.' :: rest => (readDigits rest).map fun (digits, rest) => (some digits, rest)
  | text => some (none, text)

/-- The signed digits behind an exponent mark, where there is one. -/
def readExponent : List Char → Option (Option Int × List Char)
  | mark :: rest =>
    if mark = 'e' ∨ mark = 'E' then
      let (negative, rest) := match rest with
        | '-' :: rest => (true, rest)
        | '+' :: rest => (false, rest)
        | rest => (false, rest)
      (readDigits rest).map fun (digits, rest) =>
        let value : Int := Nat.ofDigitChars 10 digits 0
        (some (if negative then -value else value), rest)
    else some (none, mark :: rest)
  | [] => some (none, [])

/-- The numeral at the front of a text. -/
def read (text : List Char) : Option (Numeral × List Char) := do
  let (whole, text) ← readWhole text
  let (fraction, text) ← readFraction text
  let (exponent, text) ← readExponent text
  return (⟨whole, fraction, exponent⟩, text)

end Numeral

/-- The number at the front of a text. -/
def Number.read (text : List Char) : Option (Number × List Char) := do
  let (negative, text) := match text with
    | '-' :: rest => (true, rest)
    | text => (false, text)
  let (numeral, text) ← Numeral.read text
  return (← numeral.toNumber negative, text)

end OfflineSync
