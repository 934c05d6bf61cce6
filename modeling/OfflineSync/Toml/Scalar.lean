import OfflineSync.Binary64.Basic
import OfflineSync.Calendar.Date
import OfflineSync.Document.Reader
import OfflineSync.Toml.Basic

/-!
# Numbers, truth values and times of a settings file

A bare value is a run of letters, digits and a few marks, `isPart`. As `value?` decides, it is a
truth value, an integer of one of four bases that fits 64 bits, a number with a fraction or an
exponent, or a date, a time of day or both.
-/

namespace OfflineSync.Toml.Scalar

/-- Whether a bare value may hold a character. -/
def isPart (c : Char) : Bool :=
  c.isAlphanum || c == '_' || c == '+' || c == '-' || c == '.' || c == ':'

/-- The digits of a run in which underscores may stand between digits. -/
def digitsOf? (isDigit : Char → Bool) (mustBeDigit : Bool) : List Char → Option (List Char)
  | [] => if mustBeDigit then none else some []
  | c :: rest =>
    if isDigit c then (digitsOf? isDigit false rest).map (c :: ·)
    else if c = '_' ∧ ¬ mustBeDigit then digitsOf? isDigit true rest
    else none

/-- The value of a run of digits of a base up to sixteen. -/
def naturalOf? (base : Nat) (text : List Char) : Option Nat := do
  let isDigit (c : Char) : Bool := (Document.hexValue? c).any (· < base)
  let digits ← digitsOf? isDigit true text
  return digits.foldl (fun value c => base * value + (Document.hexValue? c).getD 0) 0

/-- The decimal digits of a run without a leading zero. -/
def decimalDigits? (text : List Char) : Option (List Char) :=
  (digitsOf? Char.isDigit true text).filter fun digits => digits = ['0'] || digits.head? != some '0'

/-- Whether a text starts with a minus sign, and the text behind its sign. -/
def cutSign : List Char → Bool × List Char
  | '-' :: rest => (true, rest)
  | '+' :: rest => (false, rest)
  | text => (false, text)

/-- An integer that fits 64 bits. -/
def fitting? (value : Int) : Option Int :=
  if -Int.pow 2 63 ≤ value ∧ value < Int.pow 2 63 then some value else none

/-- The integer that a bare value denotes. Only decimal integers have a sign. -/
def integer? (text : List Char) : Option Int :=
  match text with
  | '0' :: 'x' :: digits => (naturalOf? 16 digits).bind fun value => fitting? value
  | '0' :: 'o' :: digits => (naturalOf? 8 digits).bind fun value => fitting? value
  | '0' :: 'b' :: digits => (naturalOf? 2 digits).bind fun value => fitting? value
  | text =>
    let (negative, text) := cutSign text
    (decimalDigits? text).bind fun digits =>
      let value : Int := Nat.ofDigitChars 10 digits 0
      fitting? (if negative then -value else value)

/-- The exponent behind its mark. -/
def exponent? (text : List Char) : Option Int :=
  let (negative, text) := cutSign text
  (digitsOf? Char.isDigit true text).map fun digits =>
    let value : Int := Nat.ofDigitChars 10 digits 0
    if negative then -value else value

/-- Whether a bare value is a number with a fraction or an exponent. A positive
one must not lie beyond the largest double-precision number. -/
def isFractional (text : List Char) : Bool :=
  let (negative, text) := cutSign text
  let isMark (c : Char) : Bool := c == 'e' || c == 'E'
  let significand := text.takeWhile fun c => !isMark c
  let exponent := text.dropWhile fun c => !isMark c
  let whole := significand.takeWhile (· != '.')
  let fraction := significand.dropWhile (· != '.')
  if text = "inf".toList ∨ text = "nan".toList then true
  else if fraction.isEmpty ∧ exponent.isEmpty then false
  else
    match decimalDigits? whole,
        (if fraction.isEmpty then some [] else digitsOf? Char.isDigit true fraction.tail),
        (if exponent.isEmpty then some 0 else exponent? exponent.tail) with
    | some whole, some places, some scale =>
      negative || (Binary64.ofDecimal false (Nat.ofDigitChars 10 (whole ++ places) 0)
        (scale - places.length)).isSome
    | _, _, _ => false

/-- Whether a text is a date that exists. -/
def isDate (text : List Char) : Bool :=
  match text with
  | [a, b, c, d, '-', e, f, '-', g, h] =>
    [a, b, c, d, e, f, g, h].all Char.isDigit &&
      Date.Exists ⟨Nat.ofDigitChars 10 [a, b, c, d] 0, Nat.ofDigitChars 10 [e, f] 0,
        Nat.ofDigitChars 10 [g, h] 0⟩
  | _ => false

/-- Whether two characters are digits of a number up to a limit. -/
def isTwoDigits (most : Nat) (a b : Char) : Bool :=
  a.isDigit && b.isDigit && Nat.ofDigitChars 10 [a, b] 0 ≤ most

/-- The text behind an hour and a minute. -/
def cutHourMinute? (text : List Char) : Option (List Char) :=
  match text with
  | a :: b :: ':' :: c :: d :: rest =>
    if isTwoDigits 23 a b ∧ isTwoDigits 59 c d then some rest else none
  | _ => none

/-- The text behind a time of day. -/
def cutTime? (text : List Char) : Option (List Char) :=
  match cutHourMinute? text with
  | some (':' :: a :: b :: rest) =>
    if ¬ isTwoDigits 60 a b then none
    else
      match rest with
      | '.' :: fraction =>
        if fraction.head?.any Char.isDigit then some (fraction.dropWhile Char.isDigit) else none
      | rest => some rest
  | _ => none

/-- Whether a text is a distance from universal time, or nothing at all. -/
def isOffset (text : List Char) : Bool :=
  match text with
  | [] | ['Z'] | ['z'] => true
  | sign :: rest => (sign == '+' || sign == '-') && cutHourMinute? rest == some []

/-- Whether a text is a time of day with its distance from universal time. -/
def isTimeWithOffset (text : List Char) : Bool :=
  (cutTime? text).any isOffset

/-- Whether a bare value is a date (`isDate`), a time of day, or a date with a time. -/
def isTime (text : List Char) : Bool :=
  isDate text || cutTime? text == some [] ||
    (isDate (text.take 10) &&
      match text.drop 10 with
      | mark :: time => (mark == 'T' || mark == 't') && isTimeWithOffset time
      | [] => false)

/-- The value that a run of characters denotes: an `integer?`, a fraction, a time or a truth
value. -/
def value? (text : List Char) : Option Value :=
  if text = "true".toList then some (.boolean true)
  else if text = "false".toList then some (.boolean false)
  else
    match integer? text with
    | some value => some (.integer value)
    | none =>
      if isFractional text then some .fractional
      else if isTime text then some .time
      else none

/-- The bare value at the front of a text. A date may be followed by one space
and a time of day. -/
def read (text : List Char) : Option (Value × List Char) := do
  let word := text.takeWhile isPart
  let rest := text.dropWhile isPart
  let value ← value? word
  match isDate word, rest with
  | true, ' ' :: behind =>
    if isTimeWithOffset (behind.takeWhile isPart) then return (value, behind.dropWhile isPart)
    else return (value, rest)
  | _, _ => return (value, rest)

end OfflineSync.Toml.Scalar
