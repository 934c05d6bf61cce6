import OfflineSync.Calendar.Timestamp
import OfflineSync.Text.Blank

/-!
# Loosely written timestamps

Records of operations may hold times in a looser form than RFC 3339. Numbers need no leading
zeros, blanks may stand around the parts and marks, years outside 0 to 9999 are written with a
sign, `readSignedYear`, and UTC may be written out as an offset, `readOffset`. The text denotes
the same instant as its strict form, where it has one.
-/

namespace OfflineSync.LooseTimestamp

/-- A number of one to `most` digits at the front of a text, blanks before it
aside. -/
def readNumber (most : Nat) (text : List Char) : Option (Nat × List Char) :=
  let text := Blank.skip text
  let digits := (text.take most).takeWhile Char.isDigit
  if digits.isEmpty then none else some (Timestamp.digitsValue digits, text.drop digits.length)

/-- The digits directly behind the sign of a year, however many there are. -/
def readSignedYear (text : List Char) : Option (Nat × List Char) :=
  let digits := text.takeWhile Char.isDigit
  if digits.isEmpty then none
  else some (Timestamp.digitsValue digits, text.drop digits.length)

/-- A year: up to four digits, or any number of them behind a sign. -/
def readYear (text : List Char) : Option (Int × List Char) :=
  match Blank.skip text with
  | '-' :: rest => (readSignedYear rest).map fun (year, rest) => (-year, rest)
  | '+' :: rest => (readSignedYear rest).map fun (year, rest) => (year, rest)
  | text => (readNumber 4 text).map fun (year, rest) => (year, rest)

/-- The text behind a mark, blanks before the mark aside. -/
def readMark (mark : Char) (text : List Char) : Option (List Char) :=
  match Blank.skip text with
  | c :: rest => if c = mark then some rest else none
  | [] => none

/-- The date at the front of a text. Its day must be one of those that a stored
moment can have. -/
def readDate (text : List Char) : Option (Date × List Char) := do
  let (year, text) ← readYear text
  let (month, text) ← readNumber 2 (← readMark '-' text)
  let (day, text) ← readNumber 2 (← readMark '-' text)
  let date : Date := ⟨year, month, day⟩
  guard (date.Exists ∧ Date.leastDay ≤ date.toDays ∧ date.toDays ≤ Date.greatestDay)
  return (date, text)

/-- The time of day at the front of a text. A fraction follows its second
directly. -/
def readClock (text : List Char) : Option (Timestamp.Clock × List Char) := do
  let (hour, text) ← readNumber 2 text
  let (minute, text) ← readNumber 2 (← readMark ':' text)
  let (second, text) ← readNumber 2 (← readMark ':' text)
  let (nanoseconds, text) ← (Timestamp.readFraction text).toOption
  guard (hour ≤ 23 ∧ minute ≤ 59 ∧ second ≤ 60)
  return (⟨hour, minute, second, nanoseconds⟩, text)

/-- Exactly two digits at the front of a text. -/
def readPair : List Char → Option (Nat × List Char)
  | first :: second :: rest =>
    if first.isDigit ∧ second.isDigit then some (Timestamp.digitsValue [first, second], rest)
    else none
  | _ => none

/-- The hours and minutes behind the sign of an offset. Blanks and colons in any
number may part them. -/
def readOffsetParts (text : List Char) : Option ((Nat × Nat) × List Char) := do
  let (hours, text) ← readPair text
  let (minutes, text) ← readPair (text.dropWhile fun c => c == ':' || Blank.isBlank c)
  guard (hours ≤ 23 ∧ minutes ≤ 59)
  return ((hours, minutes), text)

/-- The offset from UTC at the front of a text: whether it lies to the west, its
hours and its minutes. -/
def readOffset (text : List Char) : Option ((Bool × Nat × Nat) × List Char) :=
  if (text.take 3).map Char.toUpper = ['U', 'T', 'C'] then some ((false, 0, 0), text.drop 3)
  else
    match text with
    | [] => none
    | sign :: rest =>
      if sign = 'Z' ∨ sign = 'z' then some ((false, 0, 0), rest)
      else if sign = '+' ∨ sign = '-' ∨ sign = '\u2212' then
        (readOffsetParts rest).map fun ((hours, minutes), rest) =>
          ((sign != '+', hours, minutes), rest)
      else none

/-- The instant that a text denotes, if a stored moment can have its day. -/
def readChars (text : List Char) : Option Instant := do
  let (date, text) ← readDate text
  let text ← match text with
    | mark :: rest => if mark = 'T' ∨ mark = 't' ∨ mark = ' ' then some rest else none
    | [] => none
  let (clock, text) ← readClock text
  let ((west, hours, minutes), text) ← readOffset (Blank.skip text)
  guard (Blank.skip text).isEmpty
  let instant := Timestamp.assemble date clock west hours minutes
  let day := instant.seconds / Instant.secondsPerDay
  guard (Date.leastDay ≤ day ∧ day ≤ Date.greatestDay)
  return instant

/-- The instant that a text denotes. -/
def read (text : String) : Option Instant :=
  readChars text.toList

end OfflineSync.LooseTimestamp
