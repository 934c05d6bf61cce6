/-!
# Punycode

A label with characters outside ASCII is written in ASCII: its ASCII characters, a hyphen, and
numbers that tell which other characters go where. The characters are inserted in ascending order,
so that each number counts the places that were passed since the insertion before. The digits of a
number have weights that adapt to the numbers in front of it, `adapt`. `decode` takes the digits in
turn, with a `Progress` between them.
-/

namespace OfflineSync.Punycode

/-- The value of a digit: the letters of either case, then the decimal digits. -/
def digitValue? (c : Char) : Option Nat :=
  if c.isLower then some (c.toNat - 'a'.toNat)
  else if c.isUpper then some (c.toNat - 'A'.toNat)
  else if c.isDigit then some (c.toNat - '0'.toNat + 26)
  else none

/-- The number of digits. -/
def base : Nat := 36

/-- The value that a digit must reach at a place for another one to follow. -/
def threshold (place bias : Nat) : Nat :=
  if place ≤ bias then 1 else min (place - bias) 26

/-- A number divided until it is small, and the places that this makes up for. -/
def shrink (delta : Nat) : Nat × Nat :=
  if 455 < delta then
    let (rest, places) := shrink (delta / 35)
    (rest, places + base)
  else (delta, 0)
termination_by delta
decreasing_by exact Nat.div_lt_self (by omega) (by omega)

/-- The bias behind a number, when so many characters are in place. -/
def adapt (delta count : Nat) (first : Bool) : Nat :=
  let damped := if first then delta / 700 else delta / 2
  let (rest, places) := shrink (damped + damped / count)
  places + base * rest / (rest + 38)

/-- A label that is being decoded. -/
structure Progress where
  /-- The characters that are in place. -/
  text : List Nat
  /-- The character that was inserted last, or the first one outside ASCII. -/
  code : Nat
  /-- The place to insert at, in the numbering that runs through all characters. -/
  position : Nat
  bias : Nat
  /-- The position at the start of the number that is being read. -/
  start : Nat
  weight : Nat
  place : Nat
  deriving DecidableEq, Repr

namespace Progress

/-- A label of which only the ASCII characters are in place. -/
def ofAscii (text : List Nat) : Progress := ⟨text, 0x80, 0, 72, 0, 1, base⟩

/-- Whether no number was begun. -/
def isComplete (progress : Progress) : Bool :=
  progress.place == base

/-- Inserts the next character once its number is read. -/
def insert (progress : Progress) : Option Progress :=
  let count := progress.text.length + 1
  let code := progress.code + progress.position / count
  let position := progress.position % count
  if code < 0xd800 ∨ (0xe000 ≤ code ∧ code < 0x110000) then
    some ⟨progress.text.insertIdx position code, code, position + 1,
      adapt (progress.position - progress.start) count (progress.start == 0), position + 1, 1, base⟩
  else none

/-- Reads one digit. No number may exceed a 32-bit word. -/
def push (progress : Progress) (digit : Nat) : Option Progress :=
  let position := progress.position + digit * progress.weight
  let limit := threshold progress.place progress.bias
  let weight := progress.weight * (base - limit)
  if Nat.pow 2 32 ≤ position then none
  else if digit < limit then { progress with position }.insert
  else if Nat.pow 2 32 ≤ weight then none
  else some { progress with position, weight, place := progress.place + base }

end Progress

/-- The ASCII characters in front of the last hyphen, and the digits behind it. A
hyphen in front of all else is no such hyphen. -/
def cut (text : List Char) : List Char × List Char :=
  let digits := (text.reverse.takeWhile (· != '-')).reverse
  let ascii := text.take (text.length - digits.length - 1)
  if ascii.isEmpty then ([], text) else (ascii, digits)

/-- The characters that a text stands for. -/
def decode (text : List Char) : Option (List Nat) := do
  let (ascii, digits) := cut text
  let values ← digits.mapM digitValue?
  let progress ← values.foldlM Progress.push (.ofAscii (ascii.map Char.toNat))
  if progress.isComplete then return progress.text else none

end OfflineSync.Punycode
