import OfflineSync.Calendar.Instant

/-!
# Written timestamps

Reading and writing of RFC 3339 timestamps. `Timestamp.read` names the first fault of a text, a
`TimestampError`, in a fixed order of checks. Both directions use UTC: an offset is taken off when
a text is read, and `renderMicros` and `renderExact` write the letter Z.
-/

namespace OfflineSync

/-- Why a text is not a timestamp. -/
inductive TimestampError where
  /-- The text ends too early. -/
  | short
  /-- A character is out of place. -/
  | invalid
  /-- A part has a value that it cannot have. -/
  | outOfRange
  /-- Text follows the timestamp. -/
  | trailing
  deriving DecidableEq, Repr

namespace TimestampError

/-- The text of an error. -/
def message : TimestampError → String
  | .short => "premature end of input"
  | .invalid => "input contains invalid characters"
  | .outOfRange => "input is out of range"
  | .trailing => "trailing input"

end TimestampError

namespace Timestamp

/-- The length of a text in UTF-8. -/
def byteLength (text : List Char) : Nat :=
  text.foldl (fun length c => length + c.utf8Size) 0

/-- The value of a run of digits. -/
def digitsValue (digits : List Char) : Nat :=
  Nat.ofDigitChars 10 digits 0

/-- Exactly `count` digits at the front of a text. -/
def readNumber (count : Nat) (text : List Char) : Except TimestampError (Nat × List Char) :=
  let digits := text.take count
  if digits.length = count ∧ digits.all Char.isDigit then
    .ok (digitsValue digits, text.drop count)
  else .error .invalid

/-- One character at the front of a text, which must satisfy a test. -/
def readMark (accepts : Char → Bool) : List Char → Except TimestampError (List Char)
  | c :: rest => if accepts c then .ok rest else .error .invalid
  | [] => .error .invalid

/-- The year, month and day at the front of a text. -/
def readDate (text : List Char) : Except TimestampError (Date × List Char) := do
  let (year, text) ← readNumber 4 text
  let text ← readMark (· == '-') text
  let (month, text) ← readNumber 2 text
  let text ← readMark (· == '-') text
  let (day, text) ← readNumber 2 text
  return (⟨year, month, day⟩, text)

/-- A time of day as written; second 60 stands for a leap second. -/
structure Clock where
  hour : Nat
  minute : Nat
  second : Nat
  nanoseconds : Nat
  deriving DecidableEq, Repr

/-- The nanoseconds that the digits behind a point denote; from the tenth digit
on they have no effect. -/
def fractionValue (digits : List Char) : Nat :=
  let leading := digits.take 9
  digitsValue leading * Nat.pow 10 (9 - leading.length)

/-- The fraction of a second at the front of a text, where a point starts one. -/
def readFraction : List Char → Except TimestampError (Nat × List Char)
  | '.' :: rest =>
    let digits := rest.takeWhile Char.isDigit
    if rest.isEmpty then .error .short
    else if digits.isEmpty then .error .invalid
    else .ok (fractionValue digits, rest.dropWhile Char.isDigit)
  | text => .ok (0, text)

/-- The time of day at the front of a text. -/
def readClock (text : List Char) : Except TimestampError (Clock × List Char) := do
  let text ← readMark (fun c => c == 'T' || c == 't' || c == ' ') text
  let (hour, text) ← readNumber 2 text
  let text ← readMark (· == ':') text
  let (minute, text) ← readNumber 2 text
  let text ← readMark (· == ':') text
  let (second, text) ← readNumber 2 text
  let (nanoseconds, text) ← readFraction text
  if 23 < hour ∨ 59 < minute ∨ 60 < second then throw .outOfRange
  return (⟨hour, minute, second, nanoseconds⟩, text)

/-- Two digits of an offset. Where `sixty` is set their value must stay below
sixty. -/
def readOffsetPart (sixty : Bool) (text : List Char) : Except TimestampError (Nat × List Char) :=
  if byteLength text < 2 then .error .short
  else do
    let (value, rest) ← readNumber 2 text
    if sixty ∧ 60 ≤ value then throw .outOfRange
    return (value, rest)

/-- The offset from UTC at the front of a text, in hours and minutes east. -/
def readOffset : List Char → Except TimestampError ((Bool × Nat × Nat) × List Char)
  | [] => .error .short
  | sign :: rest =>
    if sign = 'Z' ∨ sign = 'z' then .ok ((false, 0, 0), rest)
    else if sign = '+' ∨ sign = '-' ∨ sign = '\u2212' then do
      let (hours, rest) ← readOffsetPart false rest
      match rest with
      | [] => throw .short
      | ':' :: rest =>
        let (minutes, rest) ← readOffsetPart true rest
        return ((sign != '+', hours, minutes), rest)
      | _ => throw .invalid
    else .error .invalid

/-- The instant of a date and a time of day at an offset. A leap second is the
second before it with a further billion nanoseconds. -/
def assemble (date : Date) (clock : Clock) (west : Bool) (hours minutes : Nat) : Instant :=
  let second := min clock.second 59
  let nanoseconds := clock.nanoseconds + if clock.second = 60 then 1000000000 else 0
  let dayTime : Int := clock.hour * 3600 + clock.minute * 60 + second
  let offset : Int := hours * 3600 + minutes * 60
  ⟨date.toDays * Instant.secondsPerDay + dayTime + (if west then offset else -offset), nanoseconds⟩

/-- The instant that a timestamp denotes. -/
def readChars (text : List Char) : Except TimestampError Instant := do
  if byteLength text < 19 then throw .short
  let (date, text) ← readDate text
  if ¬ date.Exists then throw .outOfRange
  let (clock, text) ← readClock text
  let ((west, hours, minutes), text) ← readOffset text
  if ¬ text.isEmpty then throw .trailing
  if 23 < hours then throw .outOfRange
  return assemble date clock west hours minutes

/-- The instant that a timestamp denotes. -/
def read (text : String) : Except TimestampError Instant :=
  readChars text.toList

/-- A number with zeros in front up to a width. -/
def padded (width value : Nat) : List Char :=
  let digits := Nat.toDigits 10 value
  List.replicate (width - digits.length) '0' ++ digits

/-- A year: four digits, and a sign in front where it lies outside 0 to 9999. -/
def yearChars (year : Int) : List Char :=
  if 0 ≤ year ∧ year ≤ 9999 then padded 4 year.toNat
  else (if year < 0 then '-' else '+') :: padded 4 year.natAbs

/-- The date and the time of day of an instant, without the fraction. -/
def wholeChars (instant : Instant) : List Char :=
  let date := Date.ofDays (instant.seconds / Instant.secondsPerDay)
  let dayTime := (instant.seconds % Instant.secondsPerDay).toNat
  let second := dayTime % 60 + if 1000000000 ≤ instant.nanoseconds then 1 else 0
  yearChars date.year ++ '-' :: (padded 2 date.month ++ '-' :: (padded 2 date.day ++
    'T' :: (padded 2 (dayTime / 3600) ++ ':' :: (padded 2 (dayTime / 60 % 60) ++
      ':' :: padded 2 second))))

/-- A timestamp with six places behind the second. -/
def microChars (instant : Instant) : List Char :=
  wholeChars instant ++ '.' :: (padded 6 (instant.nanoseconds % 1000000000 / 1000) ++ ['Z'])

/-- A timestamp with six places behind the second. -/
def renderMicros (instant : Instant) : String :=
  String.ofList (microChars instant)

/-- A timestamp with as few of zero, three, six or nine places as are needed. -/
def renderExact (instant : Instant) : String :=
  let nanoseconds := instant.nanoseconds % 1000000000
  let fraction :=
    if nanoseconds = 0 then []
    else if nanoseconds % 1000000 = 0 then '.' :: padded 3 (nanoseconds / 1000000)
    else if nanoseconds % 1000 = 0 then '.' :: padded 6 (nanoseconds / 1000)
    else '.' :: padded 9 nanoseconds
  String.ofList (wholeChars instant ++ fraction ++ ['Z'])

end Timestamp

end OfflineSync
