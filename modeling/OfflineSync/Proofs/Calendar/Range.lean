import Mathlib.Algebra.Group.Nat.Defs
import OfflineSync.Calendar.Timestamp
import OfflineSync.Proofs.Fallible

/-!
# The moments that timestamps denote

A timestamp has a year of four digits, a time of day and an offset of less than a day. The moment it
denotes therefore lies well within the days that a stored moment can have, so that it is `Storable`:
it can be kept as microseconds and read back, `storable_of_read`.
-/

namespace OfflineSync

namespace Date

/-- No month has more than thirty-one days. -/
theorem monthLength_le (year : Int) (month : Nat) : monthLength year month ≤ 31 := by
  unfold monthLength
  split
  · split <;> omega
  · split <;> omega

/-- A month starts no later than if every month before it had thirty-one days. -/
theorem monthStart_le (year : Int) (month : Nat) : monthStart year month ≤ 31 * month := by
  induction month with
  | zero => exact Nat.zero_le _
  | succ month inductionHypothesis =>
    cases month with
    | zero => exact Nat.zero_le _
    | succ month =>
      have length := monthLength_le year (month + 1)
      simp only [monthStart] at inductionHypothesis ⊢
      omega

/-- A date of four digits lies within some ten thousand years from the year zero on. -/
theorem toDays_bounds {date : Date} (isDate : date.Exists) (least : 0 ≤ date.year)
    (most : date.year ≤ 9999) : -719528 ≤ date.toDays ∧ date.toDays ≤ 2933000 := by
  obtain ⟨firstMonth, lastMonth, firstDay, lastDay⟩ := isDate
  have length := monthLength_le date.year date.month
  have start := monthStart_le date.year date.month
  simp only [toDays, yearStart, leapDaysThrough]
  omega

end Date

namespace Instant

/-- Whether a moment can be kept as microseconds and read back as a moment. -/
def Storable (instant : Instant) : Prop :=
  (ofMicros? instant.toMicros).isSome

/-- Microseconds that can be read as a moment stand for their whole seconds and what is left
of them. -/
theorem ofMicros?_eq_some {micros : Int} {instant : Instant}
    (read : ofMicros? micros = some instant) :
    instant = ⟨micros / 1000000, (micros % 1000000).toNat * 1000⟩ := by
  unfold ofMicros? at read
  dsimp only at read
  split at read
  · exact (Option.some.inj read).symm
  · cases read

/-- A watermark in the store is read as the moment it stands for. -/
theorem toMicros_of_ofMicros? {micros : Int} {instant : Instant}
    (read : ofMicros? micros = some instant) : instant.toMicros = micros := by
  rw [ofMicros?_eq_some read]
  simp only [toMicros]
  omega

/-- A moment within the days that a stored one can have can be stored. -/
theorem storable_of_bounds {instant : Instant}
    (least : Date.leastDay * secondsPerDay ≤ instant.seconds)
    (most : instant.seconds + 1 < (Date.greatestDay + 1) * secondsPerDay)
    (fraction : instant.nanoseconds < 2000000000) : instant.Storable := by
  have within : Date.leastDay ≤ instant.toMicros / 1000000 / secondsPerDay ∧
      instant.toMicros / 1000000 / secondsPerDay ≤ Date.greatestDay := by
    simp only [toMicros, secondsPerDay] at *
    omega
  unfold Storable ofMicros?
  dsimp only
  rw [if_pos within]
  rfl

end Instant

namespace Timestamp

variable {text rest : List Char} {count value : Nat} {date : Date} {clock : Clock}
  {instant : Instant}

/-- Digits that follow a number extend it by as many places. -/
theorem ofDigitChars_lt {digits : List Char} {start bound : Nat} (below : start < bound)
    (areDigits : digits.all Char.isDigit) :
    Nat.ofDigitChars 10 digits start < bound * 10 ^ digits.length := by
  induction digits generalizing start bound with
  | nil => simpa [Nat.ofDigitChars_nil] using below
  | cons digit rest inductionHypothesis =>
    obtain ⟨isDigit, others⟩ := Bool.and_eq_true_iff.mp areDigits
    have small : digit.toNat - '0'.toNat ≤ 9 := by
      have zero : '0'.toNat = 48 := rfl
      have nine : '9'.toNat = 57 := rfl
      have digitRange := Char.isDigit_iff_toNat.mp isDigit
      omega
    rw [Nat.ofDigitChars_cons, List.length_cons, Nat.pow_succ', ← Nat.mul_assoc]
    exact inductionHypothesis (by omega) others

/-- A number that is read is less than the power of ten of its digits. -/
theorem readNumber_lt (read : readNumber count text = .ok (value, rest)) : value < 10 ^ count := by
  unfold readNumber at read
  dsimp only at read
  split at read
  · rename_i digits
    cases read
    have bound := ofDigitChars_lt Nat.zero_lt_one digits.2
    rwa [digits.1, Nat.one_mul] at bound
  · cases read

/-- A date that is read has a year of four digits. -/
theorem readDate_year (read : readDate text = .ok (date, rest)) :
    0 ≤ date.year ∧ date.year ≤ 9999 := by
  unfold readDate at read
  simp only [bind_eq_ok, pure_eq_ok] at read
  obtain ⟨⟨year, _⟩, readsYear, _, _, _, _, _, _, _, _, same⟩ := read
  cases same
  have bound := readNumber_lt readsYear
  simp only
  omega

/-- The digits behind a point denote less than a second. -/
theorem fractionValue_lt {digits : List Char} (areDigits : digits.all Char.isDigit) :
    fractionValue digits < 1000000000 := by
  have leading : (digits.take 9).all Char.isDigit := by
    rw [List.all_eq_true] at areDigits ⊢
    exact fun digit among => areDigits digit (List.mem_of_mem_take among)
  have few : (digits.take 9).length ≤ 9 := List.length_take_le 9 digits
  calc fractionValue digits
      < 1 * 10 ^ (digits.take 9).length * 10 ^ (9 - (digits.take 9).length) :=
        Nat.mul_lt_mul_of_pos_right (ofDigitChars_lt Nat.zero_lt_one leading)
          (Nat.pow_pos (by decide))
    _ = 10 ^ 9 := by rw [Nat.one_mul, ← Nat.pow_add, Nat.add_sub_cancel' few]
    _ = 1000000000 := rfl

/-- The fraction of a second is less than a second. -/
theorem readFraction_lt (read : readFraction text = .ok (value, rest)) : value < 1000000000 := by
  unfold readFraction at read
  split at read
  · rename_i following
    dsimp only at read
    split at read
    · cases read
    · split at read
      · cases read
      · cases read
        exact fractionValue_lt List.all_takeWhile
  · cases read
    decide

/-- A time of day that is read is one of the day, or its leap second. -/
theorem readClock_bounds (read : readClock text = .ok (clock, rest)) :
    clock.hour ≤ 23 ∧ clock.minute ≤ 59 ∧ clock.second ≤ 60 ∧ clock.nanoseconds < 1000000000 := by
  unfold readClock at read
  simp only [bind_eq_ok] at read
  obtain ⟨_, -, ⟨hour, _⟩, -, _, -, ⟨minute, _⟩, -, _, -, ⟨second, _⟩, -, ⟨nanoseconds, _⟩,
    fraction, read⟩ := read
  obtain ⟨within, same⟩ := unless_throw_eq_ok.mp read
  cases same
  have bound := readFraction_lt fraction
  simp only
  omega

/-- A part of an offset has two digits. -/
theorem readOffsetPart_lt {sixty : Bool} (read : readOffsetPart sixty text = .ok (value, rest)) :
    value < 100 := by
  unfold readOffsetPart at read
  split at read
  · cases read
  · obtain ⟨⟨part, _⟩, readsPart, read⟩ := bind_eq_ok.mp read
    obtain ⟨-, same⟩ := unless_throw_eq_ok.mp read
    cases same
    exact readNumber_lt readsPart

/-- The minutes of an offset have two digits. -/
theorem readOffset_minutes {west : Bool} {hours minutes : Nat}
    (read : readOffset text = .ok ((west, hours, minutes), rest)) : minutes < 100 := by
  unfold readOffset at read
  split at read
  · cases read
  · split at read
    · cases read
      decide
    · split at read
      · simp only [bind_eq_ok] at read
        obtain ⟨⟨_, following⟩, -, read⟩ := read
        dsimp only at read
        split at read
        · cases read
        · obtain ⟨⟨minutes, _⟩, readsMinutes, same⟩ := bind_eq_ok.mp read
          cases same
          exact readOffsetPart_lt readsMinutes
        · cases read
      · cases read

/-- A time of day on a date of four digits is a moment that can be stored, at any offset of
less than a day. -/
theorem storable_assemble {west : Bool} {hours minutes : Nat} (isDate : date.Exists)
    (year : 0 ≤ date.year ∧ date.year ≤ 9999) (inDay : clock.hour ≤ 23 ∧ clock.minute ≤ 59)
    (fraction : clock.nanoseconds < 1000000000) (offset : hours ≤ 23 ∧ minutes < 100) :
    (assemble date clock west hours minutes).Storable := by
  obtain ⟨first, last⟩ := Date.toDays_bounds isDate year.1 year.2
  have least : Date.leastDay = -96465292 := by decide
  have greatest : Date.greatestDay = 95026236 := by decide
  refine Instant.storable_of_bounds ?_ ?_ ?_
  · simp only [assemble, Instant.secondsPerDay]
    split <;> omega
  · simp only [assemble, Instant.secondsPerDay]
    split <;> omega
  · simp only [assemble]
    split <;> omega

/-- A timestamp is read as a time of day, or its leap second, on a date of four digits at an
offset of less than a day. -/
theorem assembled_of_read {text : String} (reads : read text = .ok instant) :
    ∃ date clock west hours minutes, assemble date clock west hours minutes = instant ∧
      date.Exists ∧ (0 ≤ date.year ∧ date.year ≤ 9999) ∧
      (clock.hour ≤ 23 ∧ clock.minute ≤ 59 ∧ clock.second ≤ 60 ∧ clock.nanoseconds < 1000000000) ∧
      hours ≤ 23 ∧ minutes < 100 := by
  unfold read readChars at reads
  obtain ⟨-, reads⟩ := unless_throw_eq_ok.mp reads
  obtain ⟨⟨date, _⟩, readsDate, reads⟩ := bind_eq_ok.mp reads
  obtain ⟨isDate, reads⟩ := unless_throw_eq_ok.mp reads
  obtain ⟨⟨clock, _⟩, readsClock, reads⟩ := bind_eq_ok.mp reads
  obtain ⟨⟨⟨west, hours, minutes⟩, _⟩, readsOffset, reads⟩ := bind_eq_ok.mp reads
  obtain ⟨-, reads⟩ := unless_throw_eq_ok.mp reads
  obtain ⟨lessThanDay, same⟩ := unless_throw_eq_ok.mp reads
  exact ⟨date, clock, west, hours, minutes, Except.ok.inj same, Decidable.not_not.mp isDate,
    readDate_year readsDate, readClock_bounds readsClock, Nat.not_lt.mp lessThanDay,
    readOffset_minutes readsOffset⟩

/-- The moment that a timestamp denotes can be stored. -/
theorem storable_of_read {text : String} (reads : read text = .ok instant) : instant.Storable := by
  obtain ⟨date, clock, west, hours, minutes, rfl, isDate, year, ⟨hour, minute, -, fraction⟩,
    offset⟩ := assembled_of_read reads
  exact storable_assemble isDate year ⟨hour, minute⟩ fraction offset

/-- The moment that a timestamp denotes has less than two billion nanoseconds, a leap second
included. -/
theorem nanoseconds_lt_of_read {text : String} (reads : read text = .ok instant) :
    instant.nanoseconds < 2000000000 := by
  obtain ⟨date, clock, west, hours, minutes, rfl, -, -, ⟨-, -, -, fraction⟩, -⟩ :=
    assembled_of_read reads
  simp only [assemble]
  split <;> omega

end Timestamp

end OfflineSync
