import OfflineSync.Outbox.Operation

/-!
# Identities are never reused

An operation is named after its sequence number. Reading the digits of a name gives the number back,
so operations that were numbered apart are named apart, `idOfSequence_injective`.
-/

namespace OfflineSync

namespace Document

/-- A hexadecimal digit denotes the number it was written for. -/
theorem hexValue?_digitChar {value : Nat} (small : value < 16) :
    hexValue? (Nat.digitChar value) = some value := by
  have every : ∀ digit < 16, hexValue? (Nat.digitChar digit) = some digit := by decide
  exact every value small

end Document

namespace Operation

/-- The value of hexadecimal digits read onto what was read before them. -/
private def hexValueFrom (start : Nat) (digits : List Char) : Option Nat :=
  digits.foldlM (fun value c => (Document.hexValue? c).map (16 * value + ·)) start

private theorem hexValueFrom_zeros (count : Nat) (digits : List Char) :
    hexValueFrom 0 (List.replicate count '0' ++ digits) = hexValueFrom 0 digits := by
  induction count with
  | zero => rfl
  | succ count inductionHypothesis =>
    rw [List.replicate_succ, List.cons_append]
    have zero : Document.hexValue? '0' = some 0 := by decide
    simpa [hexValueFrom, zero] using inductionHypothesis

private theorem hexValueFrom_toDigits (value : Nat) :
    hexValueFrom 0 (Nat.toDigits 16 value) = some value := by
  induction value using Nat.base_induction 16 (by decide) with
  | single digit small =>
    simp [Nat.toDigits_of_lt_base small, hexValueFrom, Document.hexValue?_digitChar small]
  | digit digit rest small positive inductionHypothesis =>
    rw [← Nat.toDigits_append_toDigits (by decide) positive small,
      Nat.toDigits_of_lt_base small]
    unfold hexValueFrom at inductionHypothesis ⊢
    rw [List.foldlM_append, inductionHypothesis]
    simp [Document.hexValue?_digitChar small]

/-- Padded hexadecimal digits (`hexPadded`) denote the number they were written for. -/
theorem hexValueOf?_hexPadded (width value : Nat) :
    hexValueOf? (hexPadded width value) = some value := by
  have read := hexValueFrom_zeros (width - (Nat.toDigits 16 value).length) (Nat.toDigits 16 value)
  rw [hexValueFrom_toDigits] at read
  simpa [hexValueOf?, hexPadded, hexValueFrom] using read

private theorem hyphen_notMem_toDigits (value : Nat) : '-' ∉ Nat.toDigits 16 value := by
  induction value using Nat.base_induction 16 (by decide) with
  | single digit small => simp [Nat.toDigits_of_lt_base small]
  | digit digit rest small positive inductionHypothesis =>
    rw [← Nat.toDigits_append_toDigits (by decide) positive small]
    simp [Nat.toDigits_of_lt_base small, inductionHypothesis]

private theorem hyphen_notMem_hexPadded (width value : Nat) : '-' ∉ (hexPadded width value).toList := by
  simp [hexPadded, hyphen_notMem_toDigits]

/-- Texts of two groups with hyphens around the second agree in each group. -/
private theorem groups_injective {front back high high' low low' : List Char}
    (highPlain : '-' ∉ high) (highPlain' : '-' ∉ high')
    (same : front ++ (high ++ '-' :: (back ++ low)) = front ++ (high' ++ '-' :: (back ++ low'))) :
    high = high' ∧ low = low' := by
  have groups := List.append_cancel_left same
  have plain : ∀ {group : List Char}, '-' ∉ group → ∀ c ∈ group, (c != '-') = true := by
    rintro group absent c member
    have differs : c ≠ '-' := by
      rintro rfl
      exact absent member
    simpa using differs
  have highs : high = high' := by
    have taken := congrArg (List.takeWhile (· != '-')) groups
    simpa [List.takeWhile_append_of_pos (plain highPlain),
      List.takeWhile_append_of_pos (plain highPlain')] using taken
  subst highs
  have lows := List.append_cancel_left groups
  exact ⟨rfl, List.append_cancel_left (List.tail_eq_of_cons_eq lows)⟩

/-- Operations with one identity, made by `idOfSequence`, have one sequence number. -/
theorem idOfSequence_injective {left right : Int} (leftNumber : 0 ≤ left) (rightNumber : 0 ≤ right)
    (same : idOfSequence left = idOfSequence right) : left = right := by
  have texts := congrArg String.toList same
  have middle : "-4000-8000-".toList = '-' :: "4000-8000-".toList := by decide
  simp only [idOfSequence, String.toList_append, List.append_assoc, middle, List.cons_append]
    at texts
  obtain ⟨highs, lows⟩ :=
    groups_injective (hyphen_notMem_hexPadded _ _) (hyphen_notMem_hexPadded _ _) texts
  have high := congrArg hexValueOf? (String.toList_injective highs)
  have low := congrArg hexValueOf? (String.toList_injective lows)
  rw [hexValueOf?_hexPadded, hexValueOf?_hexPadded, Option.some.injEq] at high low
  have number : left.toNat = right.toNat := by
    rw [← Nat.div_add_mod left.toNat lastGroupSize, high, low, Nat.div_add_mod]
  omega

end Operation

end OfflineSync
