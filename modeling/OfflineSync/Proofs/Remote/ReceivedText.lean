import OfflineSync.Remote.Http

/-!
# Texts that are received as they were sent

A character in UTF-8 starts with a byte that tells how many follow, and from which range the second
one is. Bytes that were written for a text are all read by `decodeLossy`, none of them as a
replacement: `decodeLossy_flatMap_bytesOf`.
-/

namespace OfflineSync.Http

variable {rest : List UInt8} {count missing least most value byte code : Nat}

/-! ### One byte of a character -/

/-- A byte of ASCII is a character of its own. -/
theorem decodeLossy_plain (plain : byte < 0x80) :
    decodeLossy none (UInt8.ofNat byte :: rest) = Char.ofNat byte :: decodeLossy none rest := by
  have same : (UInt8.ofNat byte).toNat = byte := by
    rw [UInt8.toNat_ofNat']
    omega
  simp [decodeLossy, startChar, same, plain]

/-- The first byte of a longer character tells how many bytes follow. -/
theorem decodeLossy_first (small : byte < 256) (long : 0x80 ≤ byte)
    (asks : continuation? byte = some (count, least, most)) :
    decodeLossy none (UInt8.ofNat byte :: rest) =
      decodeLossy (some ⟨count, least, most, byte % Nat.pow 2 (6 - count)⟩) rest := by
  have same : (UInt8.ofNat byte).toNat = byte := UInt8.toNat_ofNat_of_lt small
  have notPlain : ¬ byte < 0x80 := Nat.not_lt.mpr long
  simp [decodeLossy, startChar, same, notPlain, asks]

/-- A byte that follows the first is the mark of such bytes and six bits. -/
theorem toNat_following (code : Nat) :
    (UInt8.ofNat (code % 64 + 128)).toNat = code % 64 + 128 ∧
      (code % 64 + 128) % 64 = code % 64 := by
  rw [UInt8.toNat_ofNat']
  omega

/-- A byte that follows adds six bits to the value of the character. -/
theorem decodeLossy_next (least_le : least ≤ code % 64 + 128) (le_most : code % 64 + 128 ≤ most)
    (more : missing ≠ 1) :
    decodeLossy (some ⟨missing, least, most, value⟩) (UInt8.ofNat (code % 64 + 128) :: rest) =
      decodeLossy (some ⟨missing - 1, 0x80, 0xbf, value * 64 + code % 64⟩) rest := by
  obtain ⟨same, bits⟩ := toNat_following code
  rw [decodeLossy]
  dsimp only
  rw [same, if_pos ⟨least_le, le_most⟩, if_neg more, bits]

/-- The last byte completes the character. -/
theorem decodeLossy_last (least_le : least ≤ code % 64 + 128) (le_most : code % 64 + 128 ≤ most) :
    decodeLossy (some ⟨1, least, most, value⟩) (UInt8.ofNat (code % 64 + 128) :: rest) =
      Char.ofNat (value * 64 + code % 64) :: decodeLossy none rest := by
  obtain ⟨same, bits⟩ := toNat_following code
  rw [decodeLossy]
  dsimp only
  rw [same, if_pos ⟨least_le, le_most⟩, if_pos rfl, bits]

/-! ### The bytes of a character -/

/-- The second of three bytes is in the range that the first one asks for. -/
theorem continuation?_of_three (above : 0x7ff < code)
    (valid : code < 0xd800 ∨ 0xdfff < code ∧ code ≤ 0xffff) :
    ∃ least most, continuation? (code / 4096 % 16 + 224) = some (2, least, most) ∧
      least ≤ code / 64 % 64 + 128 ∧ code / 64 % 64 + 128 ≤ most := by
  unfold continuation?
  rw [if_neg (by omega)]
  split
  · exact ⟨_, _, rfl, by omega, by omega⟩
  · split
    · exact ⟨_, _, rfl, by omega, by omega⟩
    · rw [if_pos (by omega)]
      exact ⟨_, _, rfl, by omega, by omega⟩

/-- The second of four bytes is in the range that the first one asks for. -/
theorem continuation?_of_four (above : 0xffff < code) (below : code < 0x110000) :
    ∃ least most, continuation? (code / 262144 % 8 + 240) = some (3, least, most) ∧
      least ≤ code / 4096 % 64 + 128 ∧ code / 4096 % 64 + 128 ≤ most := by
  unfold continuation?
  rw [if_neg (by omega), if_neg (by omega), if_neg (by omega), if_neg (by omega)]
  split
  · exact ⟨_, _, rfl, by omega, by omega⟩
  · split
    · exact ⟨_, _, rfl, by omega, by omega⟩
    · rw [if_pos (by omega)]
      exact ⟨_, _, rfl, by omega, by omega⟩

/-- The bytes of a character, `bytesOf`, are read by `decodeLossy` as that character. -/
theorem decodeLossy_bytesOf (c : Char) (rest : List UInt8) :
    decodeLossy none (Percent.bytesOf c ++ rest) = c :: decodeLossy none rest := by
  have valid : c.val.toNat < 0xd800 ∨ 0xdfff < c.val.toNat ∧ c.val.toNat < 0x110000 := c.valid
  have same : Char.ofNat c.val.toNat = c := Char.ofNat_toNat c
  unfold Percent.bytesOf String.utf8EncodeChar
  generalize c.val.toNat = code at valid same
  dsimp only
  -- One case for each number of bytes; the value that is read is the code in each.
  split
  · rw [List.singleton_append, decodeLossy_plain (by omega), same]
  · split
    · have asks : continuation? (code / 64 % 32 + 192) = some (1, 0x80, 0xbf) := if_pos (by omega)
      have denotes : (code / 64 % 32 + 192) % Nat.pow 2 5 * 64 + code % 64 = code := by
        rw [Nat.pow_eq]
        omega
      rw [List.cons_append, List.singleton_append, decodeLossy_first (by omega) (by omega) asks,
        decodeLossy_last (by omega) (by omega), denotes, same]
    · split
      · obtain ⟨least, most, asks, least_le, le_most⟩ :=
          continuation?_of_three (by omega : 0x7ff < code) (by omega)
        have denotes : ((code / 4096 % 16 + 224) % Nat.pow 2 4 * 64 + code / 64 % 64) * 64 +
            code % 64 = code := by
          rw [Nat.pow_eq]
          omega
        rw [List.cons_append, List.cons_append, List.singleton_append,
          decodeLossy_first (by omega) (by omega) asks,
          decodeLossy_next least_le le_most (by decide),
          decodeLossy_last (by omega) (by omega), denotes, same]
      · obtain ⟨least, most, asks, least_le, le_most⟩ :=
          continuation?_of_four (by omega : 0xffff < code) (by omega)
        have denotes : (((code / 262144 % 8 + 240) % Nat.pow 2 3 * 64 + code / 4096 % 64) * 64 +
            code / 64 % 64) * 64 + code % 64 = code := by
          rw [Nat.pow_eq]
          omega
        rw [List.cons_append, List.cons_append, List.cons_append, List.singleton_append,
          decodeLossy_first (by omega) (by omega) asks,
          decodeLossy_next least_le le_most (by decide),
          decodeLossy_next (by omega) (by omega) (by decide),
          decodeLossy_last (by omega) (by omega), denotes, same]

/-- A text is received by `decodeLossy` as it was sent. -/
theorem decodeLossy_flatMap_bytesOf (text : List Char) :
    decodeLossy none (text.flatMap Percent.bytesOf) = text := by
  induction text with
  | nil => rfl
  | cons c text inductionHypothesis =>
    rw [List.flatMap_cons, decodeLossy_bytesOf, inductionHypothesis]

end OfflineSync.Http
