/-!
# Calendar dates

A `Date` belongs to the proleptic Gregorian calendar, with a year zero, and is counted as days
from the first of January 1970. `Date.toDays` and `Date.ofDays` go either way.
-/

namespace OfflineSync

/-- A year, a month from one and a day of the month from one. -/
structure Date where
  year : Int
  month : Nat
  day : Nat
  deriving DecidableEq, Repr, Inhabited

namespace Date

/-- Whether a year has a twenty-ninth of February. -/
def isLeapYear (year : Int) : Bool :=
  year % 4 = 0 && (year % 100 != 0 || year % 400 = 0)

/-- The number of days of a month. -/
def monthLength (year : Int) (month : Nat) : Nat :=
  if month = 2 then (if isLeapYear year then 29 else 28)
  else if month = 4 ∨ month = 6 ∨ month = 9 ∨ month = 11 then 30
  else 31

/-- Whether the calendar has a date. -/
def Exists (date : Date) : Prop :=
  1 ≤ date.month ∧ date.month ≤ 12 ∧ 1 ≤ date.day ∧ date.day ≤ monthLength date.year date.month

instance (date : Date) : Decidable date.Exists := by
  unfold Exists
  infer_instance

/-- The leap days of the years from one up to and including a year; negative for
the years before. -/
def leapDaysThrough (year : Int) : Int :=
  year / 4 - year / 100 + year / 400

/-- The first day of a year, counted from the first day of 1970. -/
def yearStart (year : Int) : Int :=
  365 * (year - 1970) + leapDaysThrough (year - 1) - leapDaysThrough 1969

/-- The number of days of a year before a month. -/
def monthStart (year : Int) : Nat → Nat
  | 0 => 0
  | 1 => 0
  | month + 1 => monthStart year month + monthLength year month

/-- The days from the first of January 1970 to a date. -/
def toDays (date : Date) : Int :=
  yearStart date.year + monthStart date.year date.month + date.day - 1

/-- The year that a day falls into. The mean length of a year gives a guess that
is off by one at most. -/
def yearOfDays (days : Int) : Int :=
  let guess := 1970 + days * 400 / 146097
  if days < yearStart guess then guess - 1
  else if yearStart (guess + 1) ≤ days then guess + 1
  else guess

/-- The last month, up to a given one, that starts no later than a day of the
year. -/
def monthOfYearDay (year : Int) (yearDay : Nat) : Nat → Nat
  | 0 => 1
  | month + 1 =>
    if monthStart year (month + 1) ≤ yearDay then month + 1 else monthOfYearDay year yearDay month

/-- The date that lies a number of days after the first of January 1970. -/
def ofDays (days : Int) : Date :=
  let year := yearOfDays days
  let yearDay := (days - yearStart year).toNat
  let month := monthOfYearDay year yearDay 12
  ⟨year, month, yearDay - monthStart year month + 1⟩

/-- The first day of the years that a stored moment can have. -/
def leastDay : Int := toDays ⟨-262143, 1, 1⟩

/-- The last day of the years that a stored moment can have. -/
def greatestDay : Int := toDays ⟨262142, 12, 31⟩

end Date

end OfflineSync
