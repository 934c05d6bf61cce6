import Mathlib.Order.Monotone.Basic
import OfflineSync.Calendar.Instant

/-!
# The date of a day

Years follow each other without gaps, `yearStart_succ`, and so do the months of a year,
`monthStart_succ`. The search for the year and the month of a day therefore ends at the one date of
the calendar that lies on it, `ofDays_eq_iff`, before the year zero as well as after.
-/

namespace OfflineSync

namespace Date

variable {date other : Date}

/-! ### Years -/

/-- There is one leap day more through a leap year than through the year before it. -/
theorem leapDaysThrough_sub (year : Int) :
    leapDaysThrough year - leapDaysThrough (year - 1) = if isLeapYear year then 1 else 0 := by
  have fourth : year / 4 - (year - 1) / 4 = if year % 4 = 0 then 1 else 0 := by
    split <;> omega
  have century : year / 100 - (year - 1) / 100 = if year % 100 = 0 then 1 else 0 := by
    split <;> omega
  have cycle : year / 400 - (year - 1) / 400 = if year % 400 = 0 then 1 else 0 := by
    split <;> omega
  simp only [leapDaysThrough, isLeapYear, Bool.and_eq_true, Bool.or_eq_true, decide_eq_true_eq,
    bne_iff_ne]
  -- A multiple of 400 is one of 100 and of 4, which rules out all but four of the cases.
  split at fourth <;> split at century <;> split at cycle <;> split <;> omega

/-- The next year starts when all days of a year are over. -/
theorem yearStart_succ (year : Int) :
    yearStart (year + 1) = yearStart year + if isLeapYear year then 366 else 365 := by
  have leapDays := leapDaysThrough_sub year
  simp only [yearStart, Int.add_sub_cancel]
  split at leapDays <;> simp_all <;> omega

/-- Of two years, the later one starts when the earlier one is over, or after that. -/
theorem yearStart_le_of_lt {year later : Int} (follows : year < later) :
    yearStart (year + 1) ≤ yearStart later := by
  simp only [yearStart, leapDaysThrough]
  omega

/-- A day falls into the year that is found for it. The guess from the mean length of a year
is off by less than a year either way. -/
theorem yearOfDays_contains (days : Int) :
    yearStart (yearOfDays days) ≤ days ∧ days < yearStart (yearOfDays days + 1) := by
  unfold yearOfDays
  dsimp only
  split
  · rename_i before
    rw [Int.sub_add_cancel]
    refine ⟨?_, before⟩
    simp only [yearStart, leapDaysThrough]
    omega
  · split
    · rename_i after
      refine ⟨after, ?_⟩
      simp only [yearStart, leapDaysThrough]
      omega
    · omega

/-! ### Months of a year -/

/-- The next month starts when all days of a month are over. -/
theorem monthStart_succ (year : Int) {month : Nat} (positive : 0 < month) :
    monthStart year (month + 1) = monthStart year month + monthLength year month := by
  cases month with
  | zero => exact absurd positive (Nat.lt_irrefl 0)
  | succ month => rfl

/-- Of two months of a year, the later one starts when the earlier one is over, or after that. -/
theorem monthStart_le_of_lt (year : Int) {month later : Nat} (follows : month < later) :
    monthStart year (month + 1) ≤ monthStart year later := by
  refine monotone_nat_of_le_succ (fun month => ?_) follows
  cases month with
  | zero => exact Nat.le_refl _
  | succ month => exact Nat.le_add_right _ _

/-- The twelve months of a year are as long as the year. -/
theorem monthStart_thirteen (year : Int) :
    (monthStart year 13 : Int) = if isLeapYear year then 366 else 365 := by
  cases leap : isLeapYear year <;> simp [monthStart, monthLength, leap]

/-- A day of the year falls into the month that is found for it. -/
theorem monthOfYearDay_contains {year : Int} {yearDay last : Nat}
    (within : yearDay < monthStart year (last + 1)) :
    let month := monthOfYearDay year yearDay last
    1 ≤ month ∧ month ≤ last ∧ monthStart year month ≤ yearDay ∧
      yearDay < monthStart year (month + 1) := by
  induction last with
  | zero => exact absurd within (Nat.not_lt_zero yearDay)
  | succ last inductionHypothesis =>
    unfold monthOfYearDay
    split
    · rename_i started
      exact ⟨Nat.le_add_left 1 last, Nat.le_refl _, started, within⟩
    · rename_i later
      obtain ⟨first, most, started, ends⟩ := inductionHypothesis (Nat.not_le.mp later)
      exact ⟨first, Nat.le_succ_of_le most, started, ends⟩

/-! ### Dates and days -/

/-- The date of a day is a date of the calendar, and it lies on that day. -/
theorem toDays_ofDays (days : Int) : (ofDays days).Exists ∧ (ofDays days).toDays = days := by
  obtain ⟨started, ends⟩ := yearOfDays_contains days
  have length := yearStart_succ (yearOfDays days)
  have months := monthStart_thirteen (yearOfDays days)
  have within : (days - yearStart (yearOfDays days)).toNat < monthStart (yearOfDays days) 13 := by
    split at length <;> simp_all <;> omega
  obtain ⟨first, last, monthStarted, monthEnds⟩ := monthOfYearDay_contains within
  rw [monthStart_succ _ first] at monthEnds
  constructor
  · refine ⟨first, last, Nat.le_add_left 1 _, ?_⟩
    simp only [ofDays]
    omega
  · simp only [ofDays, toDays]
    omega

/-- A date of the calendar lies within its year. -/
theorem year_contains (isDate : date.Exists) :
    yearStart date.year ≤ date.toDays ∧ date.toDays < yearStart (date.year + 1) := by
  obtain ⟨firstMonth, lastMonth, firstDay, lastDay⟩ := isDate
  have length := yearStart_succ date.year
  have months := monthStart_thirteen date.year
  have ends := monthStart_le_of_lt date.year (Nat.lt_succ_of_le lastMonth)
  rw [monthStart_succ _ firstMonth] at ends
  simp only [toDays]
  split at length <;> simp_all <;> omega

/-- Dates of the calendar that lie on one day are the same. -/
theorem eq_of_toDays_eq (isDate : date.Exists) (otherIsDate : other.Exists)
    (same : date.toDays = other.toDays) : date = other := by
  -- Years do not overlap, nor do the months of one year: first the year, then the month.
  have sameYear : date.year = other.year := by
    obtain ⟨started, ends⟩ := year_contains isDate
    obtain ⟨otherStarted, otherEnds⟩ := year_contains otherIsDate
    rcases Int.lt_trichotomy date.year other.year with before | same | after
    · have apart := yearStart_le_of_lt before
      omega
    · exact same
    · have apart := yearStart_le_of_lt after
      omega
  obtain ⟨year, month, day⟩ := date
  obtain ⟨_, otherMonth, otherDay⟩ := other
  subst sameYear
  obtain ⟨firstMonth, -, firstDay, lastDay⟩ := isDate
  obtain ⟨otherFirstMonth, -, otherFirstDay, otherLastDay⟩ := otherIsDate
  simp only [toDays] at *
  have sameMonth : month = otherMonth := by
    rcases Nat.lt_trichotomy month otherMonth with before | same | after
    · have ends := monthStart_le_of_lt year before
      rw [monthStart_succ _ firstMonth] at ends
      omega
    · exact same
    · have ends := monthStart_le_of_lt year after
      rw [monthStart_succ _ otherFirstMonth] at ends
      omega
  subst sameMonth
  congr 1
  omega

/-- The date of a day is the one date of the calendar that lies on it. -/
theorem ofDays_eq_iff {days : Int} :
    ofDays days = date ↔ date.Exists ∧ date.toDays = days := by
  obtain ⟨isDate, lies⟩ := toDays_ofDays days
  constructor
  · rintro rfl
    exact ⟨isDate, lies⟩
  · rintro ⟨otherIsDate, otherLies⟩
    exact eq_of_toDays_eq isDate otherIsDate (lies.trans otherLies.symm)

end Date

namespace Instant

/-- The date on which a moment falls in UTC. -/
def date (instant : Instant) : Date :=
  Date.ofDays (instant.seconds / secondsPerDay)

/-- A moment falls on a date when its seconds are those of the day on which the date lies. -/
theorem date_eq_iff {instant : Instant} {date : Date} :
    instant.date = date ↔ date.Exists ∧ date.toDays = instant.seconds / secondsPerDay :=
  Date.ofDays_eq_iff

end Instant

end OfflineSync
