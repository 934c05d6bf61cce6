import OfflineSync.Document.Numeral
import OfflineSync.Document.Printer

/-!
# Numerals read back

A numeral that is written out part by part is read part by part, `Numeral.read_chars`. What follows
it must not be mistaken for more of it: neither a digit nor a point nor an exponent mark, as
`EndsNumeral` says.
-/

namespace OfflineSync

/-- Whether a text does not go on with a numeral. -/
def EndsNumeral (rest : List Char) : Prop :=
  ∀ c ∈ rest.head?, ¬ c.isDigit ∧ c ≠ '.' ∧ c ≠ 'e' ∧ c ≠ 'E'

namespace Numeral

/-- The characters of a sequence of digits. -/
structure Digits (digits : List Char) : Prop where
  nonempty : digits ≠ []
  all : ∀ c ∈ digits, c.isDigit

/-- The digits of a number are digits. -/
theorem digits_toDigits (value : Nat) : Digits (Nat.toDigits 10 value) where
  nonempty := Nat.toDigits_ne_nil
  all _ member := Nat.isDigit_of_mem_toDigits (by decide) (by decide) member

/-- Digits (`Digits`) are read up to the first character that is none. -/
theorem readDigits_append {digits rest : List Char} (written : Digits digits)
    (ends : ∀ c ∈ rest.head?, ¬ c.isDigit) : readDigits (digits ++ rest) = some (digits, rest) := by
  have taken : (digits ++ rest).takeWhile Char.isDigit = digits := by
    rw [List.takeWhile_append_of_pos written.all]
    cases rest with
    | nil => simp
    | cons c rest => simp [ends c rfl]
  have dropped : (digits ++ rest).dropWhile Char.isDigit = rest := by
    rw [List.dropWhile_append_of_pos written.all]
    cases rest with
    | nil => rfl
    | cons c rest => simp [ends c rfl]
  unfold readDigits
  rw [taken, dropped]
  simp [written.nonempty]

/-- Whether digits may stand in front of the point: a lone zero, or digits that start
with another. -/
def Leading (digits : List Char) : Prop :=
  digits = ['0'] ∨ Digits digits ∧ ∀ c ∈ digits.head?, c ≠ '0'

/-- The digits of a positive number do not start with a zero. -/
theorem head_toDigits {value : Nat} (positive : 0 < value) :
    ∀ c ∈ (Nat.toDigits 10 value).head?, c ≠ '0' := by
  induction value using Nat.base_induction 10 (by decide) with
  | single digit small =>
    rw [Nat.toDigits_of_lt_base small]
    simpa using Nat.ne_of_gt positive
  | digit digit rest small some inductionHypothesis =>
    have head : ∀ c ∈ (Nat.toDigits 10 digit).head?, c ≠ '0' := inductionHypothesis some
    rw [← Nat.toDigits_append_toDigits (by decide) some small]
    cases higher : Nat.toDigits 10 digit with
    | nil => exact absurd higher Nat.toDigits_ne_nil
    | cons c digits =>
      rw [higher] at head
      exact head

/-- The digits of a number may stand in front of the point (`Leading`). -/
theorem leading_toDigits (value : Nat) : Leading (Nat.toDigits 10 value) := by
  rcases Nat.eq_zero_or_pos value with rfl | positive
  · exact .inl rfl
  · exact .inr ⟨digits_toDigits value, head_toDigits positive⟩

/-- The digits in front of the point are read up to what follows them. -/
theorem readWhole_append {digits rest : List Char} (leading : Leading digits)
    (ends : ∀ c ∈ rest.head?, ¬ c.isDigit) : readWhole (digits ++ rest) = some (digits, rest) := by
  rcases leading with rfl | ⟨written, first⟩
  · rfl
  · cases digits with
    | nil => exact absurd rfl written.nonempty
    | cons c digits =>
      have other : c ≠ '0' := first c rfl
      rw [← readDigits_append written ends, List.cons_append]
      unfold readWhole
      split
      · rename_i same
        exact absurd (List.cons.inj same).1 other
      · rfl

/-- The characters of a numeral, part by part. -/
def chars (numeral : Numeral) : List Char :=
  numeral.whole ++
    ((numeral.fraction.map fun digits => '.' :: digits).getD [] ++
      (numeral.exponent.map fun exponent =>
        'e' :: (if exponent < 0 then '-' else '+') :: Nat.toDigits 10 exponent.natAbs).getD [])

/-- Whether a numeral can be written. -/
structure Written (numeral : Numeral) : Prop where
  whole : Leading numeral.whole
  fraction : ∀ digits ∈ numeral.fraction, Digits digits

/-- The digits behind a point are read up to what follows them. -/
theorem readFraction_append {fraction : Option (List Char)} {rest : List Char}
    (written : ∀ digits ∈ fraction, Digits digits)
    (ends : ∀ c ∈ rest.head?, ¬ c.isDigit ∧ c ≠ '.') :
    readFraction ((fraction.map fun digits => '.' :: digits).getD [] ++ rest) =
      some (fraction, rest) := by
  cases fraction with
  | some digits =>
    have read := readDigits_append (written digits rfl) fun c head => (ends c head).1
    simp [readFraction, read]
  | none =>
    cases rest with
    | nil => rfl
    | cons c rest =>
      have other : c ≠ '.' := (ends c rfl).2
      unfold readFraction
      split
      · rename_i same
        exact absurd (List.cons.inj same).1 other
      · rfl

/-- The exponent is read up to what follows it. -/
theorem readExponent_append {exponent : Option Int} {rest : List Char} (ends : EndsNumeral rest) :
    readExponent ((exponent.map fun exponent =>
        'e' :: (if exponent < 0 then '-' else '+') :: Nat.toDigits 10 exponent.natAbs).getD [] ++ rest) =
      some (exponent, rest) := by
  cases exponent with
  | some exponent =>
    have read := readDigits_append (digits_toDigits exponent.natAbs) fun c head => (ends c head).1
    generalize same : exponent.natAbs = count at read
    by_cases negative : exponent < 0
    · have value : -(count : Int) = exponent := by omega
      simp [readExponent, negative, same, read, Nat.ofDigitChars_ten_toDigits, value]
    · have value : (count : Int) = exponent := by omega
      simp [readExponent, negative, same, read, Nat.ofDigitChars_ten_toDigits, value]
  | none =>
    cases rest with
    | nil => rfl
    | cons c rest =>
      obtain ⟨-, -, small, large⟩ := ends c rfl
      simp [readExponent, small, large]

/-- A numeral that is `Written` is read up to what follows it. -/
theorem read_chars {numeral : Numeral} {rest : List Char} (written : numeral.Written)
    (ends : EndsNumeral rest) : read (numeral.chars ++ rest) = some (numeral, rest) := by
  obtain ⟨whole, fraction, exponent⟩ := numeral
  obtain ⟨leading, places⟩ := written
  have marked : ∀ c ∈ (((exponent.map fun exponent =>
      'e' :: (if exponent < 0 then '-' else '+') :: Nat.toDigits 10 exponent.natAbs).getD []) ++
        rest).head?, ¬ c.isDigit ∧ c ≠ '.' := by
    cases exponent with
    | some exponent =>
      rintro c ⟨⟩
      decide
    | none => exact fun c head => ⟨(ends c head).1, (ends c head).2.1⟩
  have pointed : ∀ c ∈ ((fraction.map fun digits => '.' :: digits).getD [] ++
      (((exponent.map fun exponent =>
        'e' :: (if exponent < 0 then '-' else '+') :: Nat.toDigits 10 exponent.natAbs).getD []) ++
          rest)).head?, ¬ c.isDigit := by
    cases fraction with
    | some digits =>
      rintro c ⟨⟩
      decide
    | none => exact fun c head => (marked c head).1
  unfold read chars
  rw [List.append_assoc, List.append_assoc, readWhole_append leading pointed]
  simp only [Option.bind_eq_bind, Option.bind_some]
  rw [readFraction_append places marked]
  simp only [Option.bind_some]
  rw [readExponent_append ends]
  rfl

/-- A character of a numeral is a digit, a point, an exponent mark or its sign. -/
theorem Written.of_mem {numeral : Numeral} (written : numeral.Written) {c : Char}
    (member : c ∈ numeral.chars) :
    c.isDigit ∨ c = '.' ∨ c = 'e' ∨
      ∃ exponent, numeral.exponent = some exponent ∧ c = if exponent < 0 then '-' else '+' := by
  obtain ⟨whole, fraction, exponent⟩ := numeral
  obtain ⟨leading, places⟩ := written
  simp only [chars, List.mem_append] at member
  rcases member with first | point | mark
  · rcases leading with rfl | ⟨⟨-, all⟩, -⟩
    · simp at first
      subst first
      exact .inl rfl
    · exact .inl (all c first)
  · cases fraction with
    | none => cases point
    | some digits =>
      rcases List.mem_cons.mp point with rfl | digit
      · exact .inr (.inl rfl)
      · exact .inl ((places digits rfl).all c digit)
  · cases exponent with
    | none => cases mark
    | some exponent =>
      rcases List.mem_cons.mp mark with rfl | rest
      · exact .inr (.inr (.inl rfl))
      · rcases List.mem_cons.mp rest with rfl | digit
        · exact .inr (.inr (.inr ⟨exponent, rfl, rfl⟩))
        · exact .inl ((digits_toDigits _).all c digit)

end Numeral

end OfflineSync
