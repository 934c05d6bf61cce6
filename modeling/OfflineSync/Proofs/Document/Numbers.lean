import OfflineSync.Proofs.Binary64.Scaling
import OfflineSync.Proofs.Document.Numerals

/-!
# Numbers read back

A number is printed as a `numeral` behind a sign. An integer is read back as it was. A
double-precision number is read back as a number, though not always as the same one, but as its
`reread`: the reader scales the digits by a power of ten that is rounded itself.
-/

namespace OfflineSync

namespace Numeral

/-- The value of all digits of a numeral, the point left out. -/
def word (numeral : Numeral) : Nat :=
  Nat.ofDigitChars 10 (numeral.whole ++ numeral.fraction.getD []) 0

/-- Digits make a word larger, if anything. -/
theorem le_ofDigitChars (digits : List Char) (start : Nat) :
    start ≤ Nat.ofDigitChars 10 digits start := by
  induction digits generalizing start with
  | nil => exact Nat.le_refl _
  | cons digit rest inductionHypothesis =>
    rw [Nat.ofDigitChars_cons]
    exact le_trans (by omega) (inductionHypothesis _)

/-- Digits that fit a word are appended by `appendDigits`, all of them. -/
theorem appendDigits_eq {digits : List Char} {start : Nat}
    (fits : Nat.ofDigitChars 10 digits start < 2 ^ 64) :
    appendDigits start digits = (Nat.ofDigitChars 10 digits start, []) := by
  induction digits generalizing start with
  | nil => rfl
  | cons digit rest inductionHypothesis =>
    rw [Nat.ofDigitChars_cons, Nat.mul_comm] at fits ⊢
    have extended := (le_ofDigitChars rest (start * 10 + (digit.toNat - '0'.toNat))).trans_lt fits
    unfold appendDigits
    simp only [Nat.pow_eq]
    rw [if_pos extended, inductionHypothesis fits]

/-- A numeral of few digits is scaled by `scaledWord` by its exponent and the places behind its
point. -/
theorem scaledWord_eq {numeral : Numeral} (fits : numeral.word < 2 ^ 64) :
    numeral.scaledWord =
      (numeral.word, numeral.exponent.getD 0 - (numeral.fraction.getD []).length) := by
  unfold word at fits ⊢
  rw [Nat.ofDigitChars_append] at fits ⊢
  have whole := appendDigits_eq ((le_ofDigitChars _ _).trans_lt fits)
  unfold scaledWord
  dsimp only
  rw [whole]
  dsimp only
  rw [appendDigits_eq fits]
  simp
  omega

end Numeral

namespace Binary64

/-- The parts of the text of a number behind its sign. -/
def numeral (value : Binary64) : Numeral :=
  let decimal := value.shortestDecimal
  let digits := Nat.toDigits 10 decimal.digits
  let exponent := decimal.leadingExponent
  if Number.format.leastPositional ≤ exponent ∧ exponent < Number.format.firstScientific then
    if exponent + 1 ≤ 0 then ⟨['0'], some (List.replicate (-(exponent + 1)).toNat '0' ++ digits), none⟩
    else
      let count := (exponent + 1).toNat
      ⟨digits.take count ++ List.replicate (count - digits.length) '0',
        some (if (digits.drop count).isEmpty then ['0'] else digits.drop count), none⟩
  else
    ⟨digits.take 1, if (digits.drop 1).isEmpty then none else some (digits.drop 1), some exponent⟩

/-- Scientific text is a numeral with an exponent. -/
theorem scientific_eq (digits : List Char) (exponent : Int) :
    scientific 'e' digits exponent =
      (⟨digits.take 1, if (digits.drop 1).isEmpty then none else some (digits.drop 1),
        some exponent⟩ : Numeral).chars := by
  unfold scientific Numeral.chars
  cases digits with
  | nil => simp
  | cons first rest =>
    cases rest with
    | nil => simp
    | cons second rest => simp

/-- The characters of a number are its sign and its numeral. -/
theorem render_eq (value : Binary64) :
    value.render Number.format =
      (if value.negative then ['-'] else []) ++ value.numeral.chars := by
  have text : (if Number.format.leastPositional ≤ value.shortestDecimal.leadingExponent ∧
        value.shortestDecimal.leadingExponent < Number.format.firstScientific then
      positional (Nat.toDigits 10 value.shortestDecimal.digits)
        (value.shortestDecimal.leadingExponent + 1)
    else
      scientific Number.format.exponentMark (Nat.toDigits 10 value.shortestDecimal.digits)
        value.shortestDecimal.leadingExponent) = value.numeral.chars := by
    unfold numeral
    dsimp only
    split
    · unfold positional
      split <;> simp [Numeral.chars]
    · exact scientific_eq _ _
  unfold render
  dsimp only
  rw [text]
  split <;> rfl

/-- The numeral of zero. -/
theorem numeral_zero {value : Binary64} (none : value.significand = 0) :
    value.numeral = ⟨['0'], some ['0'], .none⟩ := by
  unfold numeral shortestDecimal
  rw [if_pos none]
  decide

variable {value : Binary64}

/-- The digits of a number that is not zero. -/
private theorem leading_take {digits : Nat} (positive : 0 < digits) {count : Nat}
    (zeros : Nat) (some : 0 < count) :
    Numeral.Leading ((Nat.toDigits 10 digits).take count ++ List.replicate zeros '0') := by
  obtain ⟨nonempty, all⟩ := Numeral.digits_toDigits digits
  have head := Numeral.head_toDigits positive
  cases written : Nat.toDigits 10 digits with
  | nil => exact absurd written nonempty
  | cons c rest =>
    rw [written] at all head
    obtain ⟨count, rfl⟩ := Nat.exists_eq_succ_of_ne_zero some.ne'
    refine .inr ⟨⟨by simp, fun digit member => ?_⟩, head⟩
    rcases List.mem_append.mp member with taken | zero
    · exact all digit (List.mem_of_mem_take taken)
    · rw [List.eq_of_mem_replicate zero]
      decide

/-- The numeral of a number can be written. -/
theorem written_numeral (value : Binary64) : value.numeral.Written := by
  by_cases none : value.significand = 0
  · rw [numeral_zero none]
    refine ⟨.inl rfl, ?_⟩
    rintro _ ⟨rfl⟩
    exact Numeral.digits_toDigits 0
  obtain ⟨positive, -, -⟩ := shortestDecimal_spec none
  have digits := Numeral.digits_toDigits value.shortestDecimal.digits
  have dropped (count : Nat) (some : ¬ ((Nat.toDigits 10 value.shortestDecimal.digits).drop count).isEmpty) :
      Numeral.Digits ((Nat.toDigits 10 value.shortestDecimal.digits).drop count) :=
    ⟨by simpa using some, fun c member => digits.all c (List.mem_of_mem_drop member)⟩
  unfold numeral
  dsimp only
  split
  · split
    · refine ⟨.inl rfl, ?_⟩
      rintro _ ⟨rfl⟩
      refine ⟨by simp [digits.nonempty], fun c member => ?_⟩
      rcases List.mem_append.mp member with zero | digit
      · rw [List.eq_of_mem_replicate zero]
        decide
      · exact digits.all c digit
    · refine ⟨leading_take positive _ (by omega), ?_⟩
      rintro _ ⟨rfl⟩
      split
      · exact Numeral.digits_toDigits 0
      · exact dropped _ ‹_›
  · have word := leading_take positive 0 Nat.one_pos
    rw [List.replicate_zero, List.append_nil] at word
    refine ⟨word, ?_⟩
    intro places found
    split at found
    · cases found
    · cases found
      exact dropped _ ‹_›

/-- The exponent of a numeral is that of the first digit, out of the positional range. -/
theorem exponent_numeral {exponent : Int}
    (written : value.numeral.exponent = some exponent) :
    exponent = value.shortestDecimal.leadingExponent ∧ ¬ (-5 ≤ exponent ∧ exponent < 16) := by
  unfold numeral at written
  dsimp only at written
  split at written
  · split at written <;> cases written
  · rename_i range
    cases written
    exact ⟨rfl, range⟩

/-- A number has few digits. -/
theorem length_digits_le (value : Binary64) :
    (Nat.toDigits 10 value.shortestDecimal.digits).length ≤ 18 := by
  have short : value.shortestDecimal.digits < 10 ^ 18 := by
    by_cases none : value.significand = 0
    · unfold shortestDecimal
      rw [if_pos none]
      decide
    · obtain ⟨-, short, -⟩ := shortestDecimal_spec none
      omega
  exact decimalLength_le (by decide) short

/-- The word of the numeral of a number that is not zero is its digits, or its digits
with zeros behind them; scaled, either is the decimal. -/
theorem word_numeral (nonzero : value.significand ≠ 0) :
    0 < value.numeral.word ∧ value.numeral.word < 2 ^ 64 ∧
      (value.numeral.word : ℚ) *
          10 ^ (value.numeral.exponent.getD 0 - (value.numeral.fraction.getD []).length) =
        value.shortestDecimal.size := by
  obtain ⟨positive, short, -⟩ := shortestDecimal_spec nonzero
  have exact {word : Nat} {scale : Int} (digits : word = value.shortestDecimal.digits)
      (power : scale = value.shortestDecimal.scale) :
      0 < word ∧ word < 2 ^ 64 ∧ (word : ℚ) * 10 ^ scale = value.shortestDecimal.size := by
    rw [digits, power]
    exact ⟨positive, by omega, rfl⟩
  have counted : value.shortestDecimal.leadingExponent + 1 =
      value.shortestDecimal.scale + (Nat.toDigits 10 value.shortestDecimal.digits).length := by
    unfold Decimal.leadingExponent decimalLength
    omega
  unfold numeral Numeral.word
  dsimp only
  split
  · rename_i range
    split
    · apply exact
      · simp [Nat.ofDigitChars_append, Nat.ofDigitChars_cons, Nat.ofDigitChars_ten_toDigits]
      · simp
        omega
    · by_cases whole : (Nat.toDigits 10 value.shortestDecimal.digits).length ≤
          (value.shortestDecimal.leadingExponent + 1).toNat
      · rw [List.take_of_length_le whole, List.drop_of_length_le whole]
        obtain ⟨zeros, places⟩ := Nat.le.dest whole
        rw [← places, Nat.add_sub_cancel_left]
        have scale : value.shortestDecimal.scale = zeros := by omega
        have digits : Nat.ofDigitChars 10 ((Nat.toDigits 10 value.shortestDecimal.digits ++
            List.replicate zeros '0') ++ ['0']) 0 = value.shortestDecimal.digits * 10 ^ (zeros + 1) := by
          rw [Nat.ofDigitChars_append, Nat.ofDigitChars_append, Nat.ofDigitChars_ten_toDigits,
            Nat.ofDigitChars_replicate_zero, Nat.ofDigitChars_cons, Nat.ofDigitChars_nil]
          simp
          ring
        have few : value.shortestDecimal.digits * 10 ^ (zeros + 1) < 10 ^ 17 := by
          have below := lt_ten_pow_decimalLength value.shortestDecimal.digits
          have bound : decimalLength value.shortestDecimal.digits + (zeros + 1) ≤ 17 := by
            have last : value.shortestDecimal.leadingExponent < 16 := range.2
            unfold decimalLength
            omega
          calc value.shortestDecimal.digits * 10 ^ (zeros + 1)
              < 10 ^ decimalLength value.shortestDecimal.digits * 10 ^ (zeros + 1) := by gcongr
            _ = 10 ^ (decimalLength value.shortestDecimal.digits + (zeros + 1)) := (pow_add ..).symm
            _ ≤ 10 ^ 17 := Nat.pow_le_pow_right (by decide) bound
        simp only [List.isEmpty_nil, if_true, Option.getD_some, Option.getD_none]
        rw [digits]
        refine ⟨by positivity, by omega, ?_⟩
        unfold Decimal.size
        rw [scale, zpow_natCast]
        push_cast
        rw [pow_succ, ← mul_assoc]
        simp [mul_assoc]
      · apply exact
        · simp [List.take_append_drop, Nat.sub_eq_zero_of_le (Nat.le_of_not_le whole),
            Nat.ofDigitChars_ten_toDigits, show ¬ _ ≤ _ from whole]
        · simp [show ¬ _ ≤ _ from whole]
          omega
  · have places (rest : List Char) : (if rest.isEmpty then none else some rest).getD [] = rest := by
      cases rest <;> simp
    have some : 0 < (Nat.toDigits 10 value.shortestDecimal.digits).length := Nat.length_toDigits_pos
    dsimp only
    rw [places]
    apply exact
    · rw [List.take_append_drop, Nat.ofDigitChars_ten_toDigits]
    · rw [Option.getD_some, List.length_drop]
      omega

/-- The greatest numbers, which the reader may round up most. -/
def greatest (negative : Bool) (below : Fin 7) : Binary64 :=
  ⟨negative, 2 ^ 53 - 1 - below, 971, by revert below; decide⟩

/-- The reader does not overflow on the greatest numbers. -/
theorem isSome_magnitude_greatest (negative : Bool) (below : Fin 7) :
    (greatest negative below).numeral.magnitude.isSome := by
  revert negative below
  decide +kernel

/-- A number that is not one of the greatest is smaller than they by some units. -/
theorem size_le_of_ne_greatest (other : ∀ below, value ≠ greatest value.negative below) :
    value.size ≤ (2 ^ 53 - 8) * 2 ^ (971 : Int) := by
  obtain ⟨short, -, high, -⟩ := value.bounds
  rcases Int.lt_or_eq_of_le high with lower | top
  · have significand : (value.significand : ℚ) ≤ 2 ^ 53 := by exact_mod_cast short.le
    have power : (2 : ℚ) ^ value.exponent ≤ 2 ^ (970 : Int) :=
      zpow_le_zpow_right₀ one_le_two (by omega)
    have double : (2 : ℚ) ^ (971 : Int) = 2 ^ (970 : Int) * 2 := zpow_add_one₀ two_ne_zero 970
    have unit : (0 : ℚ) < 2 ^ (970 : Int) := by positivity
    calc value.size ≤ 2 ^ 53 * 2 ^ (970 : Int) := by
          unfold size
          gcongr
      _ ≤ (2 ^ 53 - 8) * 2 ^ (971 : Int) := by
          rw [double]
          generalize (2 : ℚ) ^ (970 : Int) = u at unit ⊢
          norm_num
          linarith
  · have smaller : value.significand ≤ 2 ^ 53 - 8 := by
      by_contra above
      refine other ⟨2 ^ 53 - 1 - value.significand, by omega⟩ ?_
      obtain ⟨negative, significand, exponent, canonical⟩ := value
      simp only [greatest, mk.injEq, true_and]
      exact ⟨by simp at *; omega, top⟩
    have significand : (value.significand : ℚ) ≤ 2 ^ 53 - 8 := by
      have cast : ((value.significand + 8 : Nat) : ℚ) ≤ (2 ^ 53 : Nat) := by
        exact_mod_cast (by omega : value.significand + 8 ≤ 2 ^ 53)
      push_cast at cast
      linarith
    unfold size
    rw [top]
    gcongr

/-- The decimal of a number that is not one of the greatest stays below the limit when
it is rounded a few times more. -/
theorem size_shortestDecimal_lt (nonzero : value.significand ≠ 0)
    (other : ∀ below, value ≠ greatest value.negative below) :
    value.shortestDecimal.size * (1 + 1 / 2 ^ 51) < limit := by
  obtain ⟨-, -, denotes⟩ := shortestDecimal_spec nonzero
  have smaller := size_le_of_ne_greatest other
  have unit := halfUnit_le value.shortestDecimal.size_nonneg
  have near := (abs_le.mp (denotes.trans unit)).1
  have least : leastHalf ≤ 2 ^ (971 : Int) :=
    leastHalf_le.trans (le_trans (by norm_num) (one_le_zpow₀ one_le_two (by norm_num)))
  have double : (2 : ℚ) ^ (971 : Int) = 2 ^ (970 : Int) * 2 := zpow_add_one₀ two_ne_zero 970
  have positive : (0 : ℚ) < 2 ^ (970 : Int) := by positivity
  rw [limit]
  rw [double] at smaller least
  generalize (2 : ℚ) ^ (970 : Int) = u at smaller least positive ⊢
  norm_num at smaller near ⊢
  linarith only [least, positive, smaller, near]

/-- The numeral of a number that is not one of the greatest is read as a number that
is not much greater than its decimal. -/
theorem exists_magnitude_of_ne_greatest (nonzero : value.significand ≠ 0)
    (other : ∀ below, value ≠ greatest value.negative below) :
    ∃ read, value.numeral.magnitude = some read ∧ read.negative = false ∧
      read.size ≤ max value.shortestDecimal.size 1 * (1 + 1 / 2 ^ 50) + leastHalf := by
  obtain ⟨positive, fits, decimal⟩ := word_numeral nonzero
  have bounded := size_shortestDecimal_lt nonzero other
  rw [← decimal] at bounded ⊢
  unfold Numeral.magnitude
  rw [Numeral.scaledWord_eq fits]
  obtain ⟨read, scaled, sign, close⟩ := exists_scaleDecimal positive fits bounded
  refine ⟨read, scaled, sign, close.trans ?_⟩
  gcongr
  rcases le_total (-(greatestPower : Int))
      (value.numeral.exponent.getD 0 - (value.numeral.fraction.getD []).length) with within | small
  · rw [max_eq_left within]
    exact le_max_left _ _
  · rw [max_eq_right small]
    refine le_max_of_le_right ?_
    have word : (value.numeral.word : ℚ) ≤ 10 ^ greatestPower := by
      have power : (2 : Nat) ^ 64 ≤ 10 ^ greatestPower := by decide +kernel
      exact_mod_cast fits.le.trans power
    rw [zpow_neg, zpow_natCast]
    exact mul_inv_le_one_of_le₀ word (by positivity)

/-- The numeral of a number is read as a number: `magnitude` finds one. -/
theorem exists_magnitude (value : Binary64) : ∃ read, value.numeral.magnitude = some read := by
  by_cases none : value.significand = 0
  · rw [numeral_zero none]
    exact ⟨zero false, by decide +kernel⟩
  by_cases top : ∃ below, value = greatest value.negative below
  · obtain ⟨below, same⟩ := top
    rw [same]
    exact Option.isSome_iff_exists.mp (isSome_magnitude_greatest _ below)
  · obtain ⟨read, found, -, -⟩ :=
      exists_magnitude_of_ne_greatest none fun below same => top ⟨below, same⟩
    exact ⟨read, found⟩

/-- The number that the text of a number is read as. -/
def reread (value : Binary64) : Binary64 :=
  let magnitude := value.numeral.magnitude.getD value
  if value.negative then magnitude.neg else magnitude

/-- The numeral of a number denotes no integer (`integer?`). -/
theorem integer?_numeral (value : Binary64) (negative : Bool) :
    value.numeral.integer? negative = none := by
  have marked : value.numeral.fraction.isSome ∨ value.numeral.exponent.isSome := by
    unfold numeral
    dsimp only
    split
    · split <;> exact .inl rfl
    · exact .inr rfl
  unfold Numeral.integer?
  exact if_pos marked

end Binary64

/-- A numeral starts with a digit. -/
theorem Numeral.Written.head {numeral : Numeral} (written : numeral.Written) :
    ∃ c rest, numeral.chars = c :: rest ∧ c.isDigit := by
  obtain ⟨whole, fraction, exponent⟩ := numeral
  cases whole with
  | nil =>
    rcases written.whole with same | ⟨⟨nonempty, -⟩, -⟩
    · cases same
    · exact absurd rfl nonempty
  | cons c rest =>
    refine ⟨c, _, rfl, ?_⟩
    rcases written.whole with same | ⟨⟨-, all⟩, -⟩
    · cases same
      decide
    · exact all c (List.mem_cons_self ..)

namespace Number

/-- A sign and a numeral are read as the number that they denote. -/
theorem read_signed {numeral : Numeral} (negative : Bool) {rest : List Char}
    (written : numeral.Written) (ends : EndsNumeral rest) :
    read ((if negative then ['-'] else []) ++ numeral.chars ++ rest) =
      (numeral.toNumber negative).map fun number => (number, rest) := by
  have numerals := Numeral.read_chars written ends
  unfold read
  cases negative with
  | true =>
    simp only [if_true, List.cons_append, List.nil_append, Option.bind_eq_bind]
    rw [numerals, Option.bind_some]
    cases numeral.toNumber true <;> rfl
  | false =>
    obtain ⟨c, more, chars, digit⟩ := written.head
    have unsigned : c ≠ '-' := by
      rintro rfl
      exact absurd digit (by decide)
    rw [chars] at numerals ⊢
    simp only [Bool.false_eq_true, if_false, List.nil_append, List.cons_append, Option.bind_eq_bind]
      at numerals ⊢
    split
    · rename_i same
      exact absurd (List.cons.inj same).1 unsigned
    · rw [numerals, Option.bind_some]
      cases numeral.toNumber false <;> rfl

/-- Whether a number is one that texts denote: an integer must fit 64 bits. -/
def InRange : Number → Prop
  | integer value => -2 ^ 63 ≤ value ∧ value < 2 ^ 64
  | float _ => True

/-- The number that the text of a number is read as, by `reread`. An integer is read as itself. -/
def reprinted : Number → Number
  | integer value => integer value
  | float value => float value.reread

/-- The text of a number is read as a number, up to what follows it. -/
theorem read_chars {number : Number} {rest : List Char} (inRange : number.InRange)
    (ends : EndsNumeral rest) : read (number.chars ++ rest) = some (number.reprinted, rest) := by
  cases number with
  | integer value =>
    have written : (⟨Nat.toDigits 10 value.natAbs, none, none⟩ : Numeral).Written :=
      ⟨Numeral.leading_toDigits _, by simp⟩
    have chars : (integer value).chars = (if decide (value < 0) then ['-'] else []) ++
        (⟨Nat.toDigits 10 value.natAbs, none, none⟩ : Numeral).chars := by
      by_cases negative : value < 0 <;> simp [Number.chars, Numeral.chars, negative]
    have denoted : (⟨Nat.toDigits 10 value.natAbs, none, none⟩ : Numeral).integer?
        (decide (value < 0)) = some value := by
      obtain ⟨low, high⟩ := inRange
      unfold Numeral.integer?
      simp only [Nat.pow_eq, Nat.ofDigitChars_ten_toDigits]
      by_cases negative : value < 0
      · simp [negative, abs_of_neg negative]
        omega
      · simp [negative]
        omega
    rw [chars, read_signed _ written ends]
    unfold Numeral.toNumber
    rw [denoted]
    rfl
  | float value =>
    obtain ⟨magnitude, found⟩ := value.exists_magnitude
    change read (value.render format ++ rest) = _
    rw [value.render_eq, read_signed _ value.written_numeral ends]
    unfold Numeral.toNumber
    rw [value.integer?_numeral, found]
    simp only [Option.map_some, reprinted, Binary64.reread, found, Option.getD_some]

end Number

end OfflineSync
