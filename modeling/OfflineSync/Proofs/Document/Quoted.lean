import OfflineSync.Document.Printer
import OfflineSync.Document.Reader
import OfflineSync.Proofs.Outbox.Identity

/-!
# Strings read back

A quoted string is read character by character. Each character is written as itself, as an escaped
letter or as a UTF-16 unit, and is read as one piece, `pieceOf`. `readString_quoted` reads the whole
string.
-/

namespace OfflineSync.Document

/-- Whether a character is written by its number. -/
def IsWrittenAsUnit (c : Char) : Prop :=
  c.toNat < 0x20 ∧ c ≠ '\x08' ∧ c ≠ '\x0c' ∧ c ≠ '\n' ∧ c ≠ '\r' ∧ c ≠ '\t'

instance (c : Char) : Decidable (IsWrittenAsUnit c) :=
  inferInstanceAs (Decidable (_ ∧ _))

/-- The piece that a written character is read as. -/
def pieceOf (c : Char) : Piece :=
  if IsWrittenAsUnit c then .unit c.toNat else .plain c

/-- The four digits of a control character are its unit. -/
theorem unit?_control {c : Char} (control : c.toNat < 0x20) :
    unit? '0' '0' (hexDigit (c.toNat / 16)) (hexDigit (c.toNat % 16)) = some c.toNat := by
  have zero : hexValue? '0' = some 0 := by decide
  have high : hexValue? (hexDigit (c.toNat / 16)) = some (c.toNat / 16) :=
    hexValue?_digitChar (by omega)
  have low : hexValue? (hexDigit (c.toNat % 16)) = some (c.toNat % 16) :=
    hexValue?_digitChar (by omega)
  simp only [unit?, zero, high, low, bind, Option.bind, pure, Option.some.injEq]
  omega

/-- The closing quote ends the pieces. -/
theorem readPieces_quote (rest : List Char) : readPieces ('"' :: rest) = some ([], rest) := by
  unfold readPieces
  rfl

/-- A character that needs no escape is read as itself. -/
theorem readPieces_plain {c : Char} (text : List Char) (quote : c ≠ '"') (escape : c ≠ '\\')
    (printable : ¬ c.toNat < 0x20) :
    readPieces (c :: text) =
      (readPieces text).map fun (pieces, rest) => (.plain c :: pieces, rest) := by
  rw [readPieces.eq_def]
  simp only [if_neg quote, if_neg escape, if_neg printable]

/-- A letter behind a backslash is read as the character that it stands for. -/
theorem readPieces_letter {c letter : Char} (text : List Char) (stands : escaped? letter = some c)
    (unit : letter ≠ 'u') :
    readPieces ('\\' :: letter :: text) =
      (readPieces text).map fun (pieces, rest) => (.plain c :: pieces, rest) := by
  rw [readPieces.eq_4 _ _ _ fun _ _ _ _ _ same => absurd same unit]
  simp only [stands]
  cases readPieces text <;> rfl

/-- Four digits behind a backslash and a letter are read as a unit. -/
theorem readPieces_unit {a b c d : Char} {value : Nat} (text : List Char)
    (digits : unit? a b c d = some value) :
    readPieces ('\\' :: 'u' :: a :: b :: c :: d :: text) =
      (readPieces text).map fun (pieces, rest) => (.unit value :: pieces, rest) := by
  rw [readPieces.eq_3]
  simp only [digits]
  cases readPieces text <;> rfl

/-- A character written by `escapeChar` is read as its piece. -/
theorem readPieces_escapeChar (c : Char) (text : List Char) :
    readPieces (escapeChar c ++ text) =
      (readPieces text).map fun (pieces, rest) => (pieceOf c :: pieces, rest) := by
  by_cases short : c = '"' ∨ c = '\\' ∨ c = '\x08' ∨ c = '\x0c' ∨ c = '\n' ∨ c = '\r' ∨ c = '\t'
  · rcases short with rfl | rfl | rfl | rfl | rfl | rfl | rfl <;>
      exact readPieces_letter text (by decide) (by decide)
  · simp only [not_or] at short
    obtain ⟨quote, escape, back, feed, line, ret, tab⟩ := short
    simp only [escapeChar, if_neg quote, if_neg escape, if_neg back, if_neg feed, if_neg line,
      if_neg ret, if_neg tab]
    by_cases control : c.toNat < 0x20
    · rw [if_pos control, pieceOf, if_pos ⟨control, back, feed, line, ret, tab⟩]
      exact readPieces_unit text (unit?_control control)
    · rw [if_neg control, pieceOf, if_neg fun unit => control unit.1]
      exact readPieces_plain text quote escape control

/-- A piece stands for the character that was written. -/
theorem joinPieces_pieceOf (c : Char) (pieces : List Piece) :
    joinPieces (pieceOf c :: pieces) = (joinPieces pieces).map (c :: ·) := by
  unfold pieceOf
  split
  · rename_i control
    have small : c.toNat < 0x20 := control.1
    have own : Char.ofNat c.toNat = c := Char.ofNat_toNat c
    rw [joinPieces.eq_def]
    simp only [if_neg (show ¬ (0xD800 ≤ c.toNat ∧ c.toNat < 0xDC00) by omega),
      if_neg (show ¬ (0xDC00 ≤ c.toNat ∧ c.toNat < 0xE000) by omega), own]
  · rw [joinPieces]

/-- The characters of a string are read up to its closing quote. -/
theorem readPieces_quoted (chars rest : List Char) :
    readPieces (chars.flatMap escapeChar ++ '"' :: rest) = some (chars.map pieceOf, rest) := by
  induction chars with
  | nil => exact readPieces_quote rest
  | cons c chars inductionHypothesis =>
    rw [List.flatMap_cons, List.append_assoc, readPieces_escapeChar, inductionHypothesis]
    rfl

theorem joinPieces_map_pieceOf (chars : List Char) : joinPieces (chars.map pieceOf) = some chars := by
  induction chars with
  | nil => rfl
  | cons c chars inductionHypothesis =>
    rw [List.map_cons, joinPieces_pieceOf, inductionHypothesis]
    rfl

/-- A string is read back by `readString` as it was quoted, behind its opening quote. -/
theorem readString_quoted (value : String) (rest : List Char) :
    readString (value.toList.flatMap escapeChar ++ '"' :: rest) = some (value, rest) := by
  simp [readString, readPieces_quoted, joinPieces_map_pieceOf]

end OfflineSync.Document
