import OfflineSync.Proofs.Remote.ReceivedText
import OfflineSync.Remote.Query

/-!
# Queries as a server reads them

A server cuts a query string at its ampersands, each part at its first equals sign, and decodes what
it finds there, `FormEncoding.decode`. The encoder writes no such mark for a character of a text,
whatever the text is, so the server finds the pairs that were encoded, `decode_encode`, and no
others.
-/

namespace OfflineSync

namespace FormEncoding

/-- The bytes that a text in form encoding stands for: a plus sign is a space, a percent sign
with two hexadecimal digits is a byte, and all else stands for itself. -/
def denotedBytes : List Char → List UInt8
  | '%' :: high :: low :: rest =>
    match Document.hexValue? high, Document.hexValue? low with
    | some h, some l => UInt8.ofNat (h * 16 + l) :: denotedBytes rest
    | _, _ => Percent.bytesOf '%' ++ denotedBytes (high :: low :: rest)
  | c :: rest => Percent.bytesOf (if c = '+' then ' ' else c) ++ denotedBytes rest
  | [] => []

/-- The text that a text in form encoding stands for. -/
def decodeText (encoded : List Char) : String :=
  String.ofList (Http.decodeLossy none (denotedBytes encoded))

/-- A name and a value around the first equals sign. Without one, all is the name. -/
def decodePair (encoded : List Char) : String × String :=
  (decodeText (encoded.takeWhile (· != '=')), decodeText ((encoded.dropWhile (· != '=')).drop 1))

/-- The pairs between the ampersands. Nothing between two of them is no pair. -/
def decode (encoded : String) : List (String × String) :=
  ((encoded.toList.splitOn '&').filter (!·.isEmpty)).map decodePair

variable {c : Char} {rest : List Char}

/-! ### Characters -/

/-- The digits of an escape denote the number they were written for. -/
theorem hexValue?_upperDigit {value : Nat} (small : value < 16) :
    Document.hexValue? (Percent.upperDigit value) = some value := by
  have every : ∀ digit < 16, Document.hexValue? (Percent.upperDigit digit) = some digit := by decide
  exact every value small

/-- An escaped byte is read as that byte. -/
theorem denotedBytes_escape (byte : UInt8) (rest : List Char) :
    denotedBytes (Percent.escape byte ++ rest) = byte :: denotedBytes rest := by
  have small : byte.toNat < 256 := byte.toNat_lt
  have whole : byte.toNat / 16 * 16 + byte.toNat % 16 = byte.toNat := by omega
  simp only [Percent.escape, List.cons_append, List.nil_append, denotedBytes]
  rw [hexValue?_upperDigit (by omega), hexValue?_upperDigit (by omega)]
  dsimp only
  rw [whole, UInt8.ofNat_toNat]

/-- Escaped bytes are read as they are. -/
theorem denotedBytes_flatMap_escape (bytes : List UInt8) (rest : List Char) :
    denotedBytes (bytes.flatMap Percent.escape ++ rest) = bytes ++ denotedBytes rest := by
  induction bytes with
  | nil => rfl
  | cons byte bytes inductionHypothesis =>
    rw [List.flatMap_cons, List.append_assoc, denotedBytes_escape, inductionHypothesis,
      List.cons_append]

/-- A character that starts no escape is read on its own. -/
theorem denotedBytes_cons (starts : c ≠ '%') :
    denotedBytes (c :: rest) =
      Percent.bytesOf (if c = '+' then ' ' else c) ++ denotedBytes rest := by
  rw [denotedBytes]
  exact fun _ _ _ same => absurd same starts

/-- An encoded character is read as the bytes of the character. -/
theorem denotedBytes_encodeChar (c : Char) (rest : List Char) :
    denotedBytes (encodeChar c ++ rest) = Percent.bytesOf c ++ denotedBytes rest := by
  unfold encodeChar
  split
  · rename_i plain
    have starts : c ≠ '%' := fun same => absurd (same ▸ plain) (by decide)
    have plus : c ≠ '+' := fun same => absurd (same ▸ plain) (by decide)
    rw [List.singleton_append, denotedBytes_cons starts, if_neg plus]
  · split
    · rename_i space
      subst space
      rw [List.singleton_append, denotedBytes_cons (by decide), if_pos rfl]
    · exact denotedBytes_flatMap_escape (Percent.bytesOf c) rest

/-- No encoded character has an ampersand or an equals sign. -/
theorem unmarked_encodeChar (c : Char) : ∀ d ∈ encodeChar c, d ≠ '&' ∧ d ≠ '=' := by
  have digits : ∀ value < 16, Percent.upperDigit value ≠ '&' ∧ Percent.upperDigit value ≠ '=' := by
    decide
  intro d among
  unfold encodeChar at among
  split at among
  · rename_i plain
    rw [List.mem_singleton.mp among]
    exact ⟨fun same => absurd (same ▸ plain) (by decide),
      fun same => absurd (same ▸ plain) (by decide)⟩
  · split at among
    · rw [List.mem_singleton.mp among]
      decide
    · obtain ⟨byte, -, within⟩ := List.mem_flatMap.mp among
      have small : byte.toNat < 256 := byte.toNat_lt
      simp only [Percent.escape, List.mem_cons, List.not_mem_nil, or_false] at within
      rcases within with rfl | rfl | rfl
      · decide
      · exact digits _ (by omega)
      · exact digits _ (by omega)

/-! ### Texts and pairs -/

/-- A text that `encodeText` encodes is decoded to the text. -/
theorem decodeText_encodeText (text : String) : decodeText (encodeText text) = text := by
  have bytes : denotedBytes (encodeText text) = text.toList.flatMap Percent.bytesOf := by
    unfold encodeText
    induction text.toList with
    | nil => rfl
    | cons c chars inductionHypothesis =>
      rw [List.flatMap_cons, denotedBytes_encodeChar, inductionHypothesis, List.flatMap_cons]
  rw [decodeText, bytes, Http.decodeLossy_flatMap_bytesOf, String.ofList_toList]

/-- No encoded text has an ampersand or an equals sign. -/
theorem unmarked_encodeText (text : String) : ∀ d ∈ encodeText text, d ≠ '&' ∧ d ≠ '=' := by
  intro d among
  obtain ⟨c, -, within⟩ := List.mem_flatMap.mp among
  exact unmarked_encodeChar c d within

/-- A pair that `encodePair` encodes is decoded to the pair. -/
theorem decodePair_encodePair (pair : String × String) : decodePair (encodePair pair) = pair := by
  have unmarked : ∀ d ∈ encodeText pair.1, (d != '=') = true := fun d among =>
    bne_iff_ne.mpr (unmarked_encodeText pair.1 d among).2
  have name : (encodePair pair).takeWhile (· != '=') = encodeText pair.1 := by
    rw [encodePair, List.takeWhile_append_of_pos unmarked]
    exact List.append_nil _
  have value : (encodePair pair).dropWhile (· != '=') = '=' :: encodeText pair.2 := by
    rw [encodePair, List.dropWhile_append_of_pos unmarked]
    rfl
  rw [decodePair, name, value, List.drop_one, List.tail_cons, decodeText_encodeText,
    decodeText_encodeText]

/-- Pairs that `encode` encodes are decoded to the pairs, in their order. -/
theorem decode_encode (pairs : List (String × String)) : decode (encode pairs) = pairs := by
  cases pairs with
  | nil => rfl
  | cons first others =>
    -- No part is cut again at an ampersand of its own, and none is dropped as empty.
    have uncut : ∀ part ∈ (first :: others).map encodePair, '&' ∉ part := by
      intro part among mark
      obtain ⟨pair, -, rfl⟩ := List.mem_map.mp among
      rcases List.mem_append.mp mark with inName | behind
      · exact (unmarked_encodeText pair.1 _ inName).1 rfl
      · rcases List.mem_cons.mp behind with equals | inValue
        · exact absurd equals (by decide)
        · exact (unmarked_encodeText pair.2 _ inValue).1 rfl
    have filled : ∀ part ∈ (first :: others).map encodePair, (!part.isEmpty) = true := by
      intro part among
      obtain ⟨pair, -, rfl⟩ := List.mem_map.mp among
      simp [encodePair]
    rw [decode, encode, String.toList_ofList, List.splitOn_intercalate '&' uncut (by simp),
      List.filter_eq_self.mpr filled, List.map_map]
    exact List.map_id'' decodePair_encodePair _

/-- Marks and escapes within a part, a part without a value and an empty part. -/
example : decode "a%26=1+%2B=%3d&&caf%C3%A9&%F0%9F%98=%4" =
    [("a&", "1 +=="), ("café", ""), ("\ufffd", "%4")] := by
  decide +kernel

end FormEncoding

namespace QueryDescription

/-- What a server reads (`FormEncoding.decode`) from the query string of a description: the
clauses in parentheses and joined, the terms of the order with their directions, the rows to skip
and to take at most, and whether removed rows are included, each if it was asked for, and nothing
else. -/
theorem decode_compile (query : QueryDescription) :
    FormEncoding.decode query.compile =
      (if query.filters = [] then []
        else [("$filter",
          " and ".intercalate (query.filters.map fun clause => "(" ++ clause ++ ")"))]) ++
      (if query.order = [] then []
        else [("$orderby", ",".intercalate (query.order.map fun term =>
          term.field ++ match term.direction with
            | .ascending => " asc"
            | .descending => " desc"))]) ++
      (query.skip.map fun count => ("$skip", toString count)).toList ++
      (query.top.map fun count => ("$top", toString count)).toList ++
      (if query.includeDeleted then [("__includedeleted", "true")] else []) := by
  have terms (term : OrderTerm) : term.field ++ " " ++ term.direction.keyword =
      term.field ++ match term.direction with
        | .ascending => " asc"
        | .descending => " desc" := by
    cases term.direction <;> exact String.append_assoc
  rw [compile, FormEncoding.decode_encode]
  simp only [pairs, filterText, orderText, List.isEmpty_iff, terms]

end QueryDescription

end OfflineSync
