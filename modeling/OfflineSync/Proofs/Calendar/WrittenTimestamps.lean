import OfflineSync.Proofs.Calendar.Dates
import OfflineSync.Proofs.Calendar.Range

/-!
# Timestamps read back

A timestamp with six places is written part by part, each number in a fixed width, and is read part
by part: `readChars_microChars`. A year outside of 0 to 9999 has a sign in front, which the reader
takes for no digit, `readChars_microChars_ne_ok`.
-/

namespace OfflineSync

namespace Timestamp

variable {width value : Nat} {rest text : List Char} {date : Date} {instant moment : Instant}

/-! ### Numbers of a fixed width -/

/-- A number is written with no fewer digits than its width. -/
theorem le_length_padded (width value : Nat) : width ≤ (padded width value).length := by
  simp only [padded, List.length_append, List.length_replicate]
  omega

/-- A number that fits its width is written with that many digits, and they denote it. -/
theorem digits_padded (positive : 0 < width) (fits : value < 10 ^ width) :
    (padded width value).length = width ∧ (∀ c ∈ padded width value, c.isDigit) ∧
      digitsValue (padded width value) = value := by
  have short : (Nat.toDigits 10 value).length ≤ width :=
    (Nat.length_toDigits_le_iff (by decide) positive).mpr fits
  have zeros (count : Nat) : Nat.ofDigitChars 10 (List.replicate count '0') 0 = 0 := by
    induction count with
    | zero => rfl
    | succ count inductionHypothesis =>
      rw [List.replicate_succ, Nat.ofDigitChars_cons]
      exact inductionHypothesis
  refine ⟨?_, fun c among => ?_, ?_⟩
  · simp only [padded, List.length_append, List.length_replicate]
    omega
  · rcases List.mem_append.mp among with zero | digit
    · rw [List.eq_of_mem_replicate zero]
      decide
    · exact Nat.isDigit_of_mem_toDigits (by decide) (by decide) digit
  · rw [padded, digitsValue, Nat.ofDigitChars_append, zeros,
      Nat.ofDigitChars_toDigits (by decide) (by decide)]

/-- A number that fits its width is read from the front of a text. -/
theorem readNumber_padded (positive : 0 < width) (fits : value < 10 ^ width) :
    readNumber width (padded width value ++ rest) = .ok (value, rest) := by
  obtain ⟨length, digits, denotes⟩ := digits_padded positive fits
  unfold readNumber
  rw [List.take_left' length, List.drop_left' length]
  simp [length, List.all_eq_true.mpr digits, denotes]

/-- No number is read where a sign stands. -/
theorem readNumber_of_not_isDigit {c : Char} (positive : 0 < width) (sign : c.isDigit = false) :
    readNumber width (c :: rest) = .error .invalid := by
  obtain ⟨others, rfl⟩ := Nat.exists_eq_add_one.mpr positive
  simp [readNumber, sign]

/-! ### The parts of a timestamp -/

/-- A mark that is accepted is passed. -/
theorem readMark_cons {accepts : Char → Bool} {c : Char} (accepted : accepts c) :
    readMark accepts (c :: rest) = .ok rest :=
  if_pos accepted

/-- Six places behind the second are read as microseconds. -/
theorem readFraction_padded (fits : value < 1000000) :
    readFraction ('.' :: (padded 6 value ++ ['Z'])) = .ok (value * 1000, ['Z']) := by
  obtain ⟨length, digits, denotes⟩ := digits_padded (by decide : 0 < 6) fits
  have taken : (padded 6 value ++ ['Z']).takeWhile Char.isDigit = padded 6 value := by
    rw [List.takeWhile_append_of_pos digits]
    exact List.append_nil _
  have dropped : (padded 6 value ++ ['Z']).dropWhile Char.isDigit = ['Z'] := by
    rw [List.dropWhile_append_of_pos digits]
    rfl
  have some : padded 6 value ≠ [] := List.ne_nil_of_length_pos (by omega)
  have leading : (padded 6 value).take 9 = padded 6 value := List.take_of_length_le (by omega)
  simp [readFraction, taken, dropped, some, fractionValue, leading, length, denotes]

/-- A date of a year of four digits is read as it is written. -/
theorem readDate_written (isDate : date.Exists) (year : 0 ≤ date.year ∧ date.year ≤ 9999) :
    readDate (yearChars date.year ++ '-' :: (padded 2 date.month ++ '-' :: (padded 2 date.day ++
      rest))) = .ok (date, rest) := by
  obtain ⟨-, lastMonth, -, lastDay⟩ := isDate
  have longest := Date.monthLength_le date.year date.month
  have sameYear : (date.year.toNat : Int) = date.year := Int.toNat_of_nonneg year.1
  rw [yearChars, if_pos year]
  refine bind_eq_ok.mpr ⟨_, readNumber_padded (by decide) (by omega), ?_⟩
  refine bind_eq_ok.mpr ⟨_, readMark_cons rfl, ?_⟩
  refine bind_eq_ok.mpr ⟨_, readNumber_padded (by decide) (by omega), ?_⟩
  refine bind_eq_ok.mpr ⟨_, readMark_cons rfl, ?_⟩
  refine bind_eq_ok.mpr ⟨_, readNumber_padded (by decide) (by omega), ?_⟩
  rw [pure_eq_ok, sameYear]

/-- A time of day with six places is read as it is written. -/
theorem readClock_written {hour minute second micros : Nat} (inDay : hour ≤ 23)
    (inHour : minute ≤ 59) (inMinute : second ≤ 60) (inSecond : micros < 1000000) :
    readClock ('T' :: (padded 2 hour ++ ':' :: (padded 2 minute ++ ':' :: (padded 2 second ++
      '.' :: (padded 6 micros ++ ['Z']))))) =
      .ok (⟨hour, minute, second, micros * 1000⟩, ['Z']) := by
  refine bind_eq_ok.mpr ⟨_, readMark_cons rfl, ?_⟩
  refine bind_eq_ok.mpr ⟨_, readNumber_padded (by decide) (by omega), ?_⟩
  refine bind_eq_ok.mpr ⟨_, readMark_cons rfl, ?_⟩
  refine bind_eq_ok.mpr ⟨_, readNumber_padded (by decide) (by omega), ?_⟩
  refine bind_eq_ok.mpr ⟨_, readMark_cons rfl, ?_⟩
  refine bind_eq_ok.mpr ⟨_, readNumber_padded (by decide) (by omega), ?_⟩
  refine bind_eq_ok.mpr ⟨_, readFraction_padded inSecond, ?_⟩
  exact unless_throw_eq_ok.mpr ⟨by omega, rfl⟩

/-! ### Whole timestamps -/

/-- A text has at least as many bytes as characters. -/
theorem length_le_byteLength (text : List Char) : text.length ≤ byteLength text := by
  have onto (start : Nat) : start + text.length ≤
      text.foldl (fun length c => length + c.utf8Size) start := by
    induction text generalizing start with
    | nil => exact Nat.le_refl _
    | cons c rest inductionHypothesis =>
      have size := c.utf8Size_pos
      have others := inductionHypothesis (start + c.utf8Size)
      rw [List.foldl_cons, List.length_cons]
      omega
  simpa [byteLength] using onto 0

/-- A timestamp with six places is read as the date and the time of day that are written. -/
theorem readChars_written {hour minute second micros : Nat} (isDate : date.Exists)
    (year : 0 ≤ date.year ∧ date.year ≤ 9999) (inDay : hour ≤ 23) (inHour : minute ≤ 59)
    (inMinute : second ≤ 60) (inSecond : micros < 1000000) :
    readChars (yearChars date.year ++ '-' :: (padded 2 date.month ++ '-' :: (padded 2 date.day ++
      'T' :: (padded 2 hour ++ ':' :: (padded 2 minute ++ ':' :: (padded 2 second ++
        '.' :: (padded 6 micros ++ ['Z']))))))) =
      .ok (assemble date ⟨hour, minute, second, micros * 1000⟩ false 0 0) := by
  unfold readChars
  refine unless_throw_eq_ok.mpr ⟨Nat.not_lt.mpr (le_trans ?_ (length_le_byteLength _)), ?_⟩
  · have four := le_length_padded 4 date.year.toNat
    have six := le_length_padded 6 micros
    have month := le_length_padded 2 date.month
    have day := le_length_padded 2 date.day
    simp only [yearChars, if_pos year, List.length_append, List.length_cons]
    omega
  · refine bind_eq_ok.mpr ⟨_, readDate_written isDate year, ?_⟩
    refine unless_throw_eq_ok.mpr ⟨not_not.mpr isDate, ?_⟩
    refine bind_eq_ok.mpr ⟨_, readClock_written inDay inHour inMinute inSecond, ?_⟩
    exact bind_eq_ok.mpr ⟨((false, 0, 0), []), rfl, rfl⟩

/-- A time of day in UTC is that much after the start of its date, outside of leap seconds. -/
theorem assemble_plain {hour minute second nanoseconds : Nat} (plain : second ≤ 59) :
    assemble date ⟨hour, minute, second, nanoseconds⟩ false 0 0 =
      ⟨date.toDays * Instant.secondsPerDay + (hour * 3600 + minute * 60 + second),
        nanoseconds⟩ := by
  have differs : second ≠ 60 := by omega
  simp [assemble, Nat.min_eq_left plain, differs]

/-- A timestamp starts with the year of its moment. -/
theorem exists_microChars (instant : Instant) :
    ∃ rest, microChars instant = yearChars instant.date.year ++ rest := by
  rw [microChars, wholeChars, List.append_assoc]
  exact ⟨_, rfl⟩

/-- A moment of whole microseconds outside of leap seconds, in a year of four digits, is read
back from its timestamp. -/
theorem readChars_microChars (year : 0 ≤ instant.date.year ∧ instant.date.year ≤ 9999)
    (plain : instant.nanoseconds < 1000000000) (whole : instant.nanoseconds % 1000 = 0) :
    readChars (microChars instant) = .ok instant := by
  obtain ⟨isDate, lies⟩ := Instant.date_eq_iff.mp (rfl : instant.date = instant.date)
  have least : 0 ≤ instant.seconds % Instant.secondsPerDay := Int.emod_nonneg _ (by decide)
  have most : instant.seconds % Instant.secondsPerDay < 86400 := Int.emod_lt_of_pos _ (by decide)
  have parts := Int.ediv_mul_add_emod instant.seconds Instant.secondsPerDay
  -- The seconds of the day, also of a moment before 1970, where they still count from midnight.
  obtain ⟨dayTime, sameTime⟩ := Int.eq_ofNat_of_zero_le least
  have seconds : instant.date.toDays * Instant.secondsPerDay +
      ((dayTime / 3600 : Nat) * 3600 + (dayTime / 60 % 60 : Nat) * 60 + (dayTime % 60 : Nat)) =
        instant.seconds := by
    rw [lies]
    omega
  have nanoseconds : instant.nanoseconds % 1000000000 / 1000 * 1000 = instant.nanoseconds := by
    omega
  have read : readChars (microChars instant) = .ok (assemble instant.date
      ⟨dayTime / 3600, dayTime / 60 % 60, dayTime % 60,
        instant.nanoseconds % 1000000000 / 1000 * 1000⟩ false 0 0) := by
    unfold microChars wholeChars
    simp only [List.append_assoc, List.cons_append]
    rw [if_neg (Nat.not_le.mpr plain), Nat.add_zero, sameTime, Int.toNat_natCast]
    exact readChars_written isDate year (by omega) (by omega) (by omega) (by omega)
  rw [read, assemble_plain (by omega), seconds, nanoseconds]

/-- A timestamp of a year with a sign is not read. -/
theorem readChars_microChars_ne_ok (year : ¬ (0 ≤ instant.date.year ∧ instant.date.year ≤ 9999)) :
    readChars (microChars instant) ≠ .ok moment := by
  intro reads
  unfold readChars at reads
  obtain ⟨-, reads⟩ := unless_throw_eq_ok.mp reads
  obtain ⟨_, readsDate, -⟩ := bind_eq_ok.mp reads
  obtain ⟨_, readsYear, -⟩ := bind_eq_ok.mp readsDate
  obtain ⟨rest, written⟩ := exists_microChars instant
  rw [written, yearChars, if_neg year, List.cons_append,
    readNumber_of_not_isDigit (by decide) (by split <;> decide)] at readsYear
  cases readsYear

end Timestamp

end OfflineSync
