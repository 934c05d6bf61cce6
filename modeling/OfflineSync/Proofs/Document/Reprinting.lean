import OfflineSync.Document.Reader
import OfflineSync.Proofs.Document.Numbers
import OfflineSync.Proofs.Document.Quoted
import OfflineSync.Proofs.KeyedList

/-!
# Documents read back

A document that some text denotes is `Readable`: it is printed as a text that denotes a document,
its `reprinted` form, by `Readable.read_render`. The two have the same structure, the same texts and
the same integers. They may differ in double-precision numbers alone, as far as the reader does not
give those back.
-/

namespace OfflineSync

/-- The text of a number starts with its sign or a digit. -/
theorem Number.head_chars (number : Number) :
    ∃ c rest, number.chars = c :: rest ∧ (c = '-' ∨ c.isDigit) := by
  cases number with
  | integer value =>
    by_cases negative : value < 0
    · exact ⟨'-', Nat.toDigits 10 value.natAbs, by simp only [Number.chars, negative, if_true],
        .inl rfl⟩
    · have written := Numeral.digits_toDigits value.natAbs
      cases digits : Nat.toDigits 10 value.natAbs with
      | nil => exact absurd digits written.nonempty
      | cons c rest =>
        exact ⟨c, rest, by simp only [Number.chars, negative, if_false, digits],
          .inr (written.all c (digits ▸ List.mem_cons_self ..))⟩
  | float value =>
    cases sign : value.negative with
    | true =>
      exact ⟨'-', value.numeral.chars, by simp [Number.chars, value.render_eq, sign], .inl rfl⟩
    | false =>
      obtain ⟨c, rest, chars, digit⟩ := value.written_numeral.head
      exact ⟨c, rest, by simp [Number.chars, value.render_eq, sign, chars], .inr digit⟩

/-- What starts the text of a number starts nothing else. -/
theorem Number.first_notMem {c : Char} (first : c = '-' ∨ c.isDigit) :
    c ∉ ['"', '[', '\x7b', 'n', 't', 'f'] := by
  rcases first with rfl | digit
  · decide
  · intro other
    simp only [List.mem_cons, List.not_mem_nil, or_false] at other
    rcases other with rfl | rfl | rfl | rfl | rfl | rfl
    all_goals cases digit

namespace Document

mutual

/-- The document that the text of a document is read as. -/
def reprinted : Document → Document
  | .null => .null
  | .boolean value => .boolean value
  | .number value => .number value.reprinted
  | .text value => .text value
  | .array items => .array (reprintedItems items)
  | .object fields => .object (reprintedFields fields)

/-- The items of an array, each as it is read. -/
def reprintedItems : List Document → List Document
  | [] => []
  | item :: rest => reprinted item :: reprintedItems rest

/-- The fields of an object, each as it is read. -/
def reprintedFields : List (String × Document) → List (String × Document)
  | [] => []
  | (name, value) :: rest => (name, reprinted value) :: reprintedFields rest

end

theorem reprintedFields_eq_map (fields : List (String × Document)) :
    reprintedFields fields = fields.map fun field => (field.1, field.2.reprinted) := by
  induction fields with
  | nil => rfl
  | cons field rest inductionHypothesis =>
    rw [reprintedFields, inductionHypothesis, List.map_cons]

/-- Reprinting changes no name: `reprintedFields` stay in order. -/
theorem ascending_reprintedFields {fields : List (String × Document)}
    (ascending : KeyedList.Ascending fields) : KeyedList.Ascending (reprintedFields fields) := by
  rw [reprintedFields_eq_map]
  exact List.pairwise_map.mpr ascending

/-- The documents that texts denote where some levels of nesting remain: the names of
an object ascend, and integers fit 64 bits. -/
inductive Readable : Nat → Document → Prop where
  | null {depth : Nat} : Readable depth .null
  | boolean {depth : Nat} {value : Bool} : Readable depth (.boolean value)
  | number {depth : Nat} {value : Number} (inRange : value.InRange) : Readable depth (.number value)
  | text {depth : Nat} {value : String} : Readable depth (.text value)
  | array {depth : Nat} {items : List Document} (nested : 1 < depth)
      (each : ∀ item ∈ items, Readable (depth - 1) item) : Readable depth (.array items)
  | object {depth : Nat} {fields : List (String × Document)} (nested : 1 < depth)
      (ascending : KeyedList.Ascending fields)
      (each : ∀ field ∈ fields, Readable (depth - 1) field.2) : Readable depth (.object fields)

/-- The characters that documents start with. -/
def Starts (c : Char) : Prop :=
  c ∈ ['n', 't', 'f', '"', '[', '\x7b', '-'] ∨ c.isDigit

/-- A character that a document starts with is neither a blank nor a closing bracket. -/
theorem Starts.solid {c : Char} (starts : Starts c) : c ∉ [' ', '\n', '\t', '\r', ']'] := by
  rcases starts with known | digit
  · simp only [List.mem_cons, List.not_mem_nil, or_false] at known
    rcases known with rfl | rfl | rfl | rfl | rfl | rfl | rfl
    all_goals decide
  · intro other
    simp only [List.mem_cons, List.not_mem_nil, or_false] at other
    rcases other with rfl | rfl | rfl | rfl | rfl
    all_goals cases digit

/-- The text of a document starts like one. -/
theorem head_chars (document : Document) :
    ∃ c rest, document.chars = c :: rest ∧ Starts c := by
  cases document with
  | null => exact ⟨_, _, rfl, .inl (by decide)⟩
  | boolean value => cases value <;> exact ⟨_, _, rfl, .inl (by decide)⟩
  | number value =>
    obtain ⟨c, rest, chars, rfl | digit⟩ := value.head_chars
    · exact ⟨_, rest, chars, .inl (by decide)⟩
    · exact ⟨c, rest, chars, .inr digit⟩
  | text value => exact ⟨_, _, rfl, .inl (by decide)⟩
  | array items => exact ⟨_, _, rfl, .inl (by decide)⟩
  | object fields => exact ⟨_, _, rfl, .inl (by decide)⟩

/-- The text of items starts like a document. -/
theorem head_charsOfItems (item : Document) (items : List Document) :
    ∃ c rest, charsOfItems (item :: items) = c :: rest ∧ Starts c := by
  obtain ⟨c, rest, chars, starts⟩ := item.head_chars
  cases items with
  | nil => exact ⟨c, rest, by rw [charsOfItems, chars], starts⟩
  | cons next items => exact ⟨c, rest ++ ',' :: charsOfItems (next :: items), by
      simp [charsOfItems, chars], starts⟩

/-- The text of fields starts with a quote. -/
theorem head_charsOfFields (field : String × Document) (fields : List (String × Document)) :
    ∃ rest, charsOfFields (field :: fields) = '"' :: rest := by
  obtain ⟨name, value⟩ := field
  cases fields with
  | nil => exact ⟨_, rfl⟩
  | cons next fields => exact ⟨_, rfl⟩

/-- Nothing is skipped of a text that does not start with a blank. -/
theorem skipBlanks_cons {c : Char} {rest : List Char} (solid : c ∉ [' ', '\n', '\t', '\r', ']']) :
    skipBlanks (c :: rest) = c :: rest := by
  simp only [List.mem_cons, not_or] at solid
  simp [skipBlanks, solid]

/-- Nothing is skipped of the text of a document, as that `Starts` with no blank. -/
theorem skipBlanks_chars (document : Document) (rest : List Char) :
    skipBlanks (document.chars ++ rest) = document.chars ++ rest := by
  obtain ⟨c, more, chars, starts⟩ := document.head_chars
  rw [chars, List.cons_append, skipBlanks_cons starts.solid]

/-- Whether a value is read as what its text denotes, given steps for its text. -/
def ReadsBack (depth : Nat) (document : Document) : Prop :=
  ∀ fuel rest, EndsNumeral rest → 2 * document.chars.length ≤ fuel →
    readValue fuel depth (document.chars ++ rest) = some (document.reprinted, rest)

/-- A numeral ends before a separator or a closing bracket. -/
theorem endsNumeral_cons {c : Char} (other : c ∈ [',', ']', '}']) (rest : List Char) :
    EndsNumeral (c :: rest) := by
  rintro _ ⟨rfl⟩
  simp only [List.mem_cons, List.not_mem_nil, or_false] at other
  rcases other with rfl | rfl | rfl
  all_goals decide

/-- Items that are read back one by one are read back together. -/
theorem readItems_chars {depth : Nat} {items : List Document} (some : items ≠ [])
    (each : ∀ item ∈ items, ReadsBack depth item) (fuel : Nat) (rest : List Char)
    (enough : 2 * (charsOfItems items).length + 1 ≤ fuel) :
    readItems fuel depth (charsOfItems items ++ ']' :: rest) =
      .some (reprintedItems items, rest) := by
  induction items generalizing fuel with
  | nil => exact absurd rfl some
  | cons item items inductionHypothesis =>
    obtain ⟨fuel, rfl⟩ := Nat.exists_eq_succ_of_ne_zero (show fuel ≠ 0 by omega)
    have first := each item (List.mem_cons_self ..)
    unfold readItems
    cases items with
    | nil =>
      have read := first fuel (']' :: rest) (endsNumeral_cons (by decide) rest)
        (by simp only [charsOfItems] at enough; omega)
      simp only [charsOfItems]
      rw [read]
      simp [skipBlanks, reprintedItems]
    | cons next items =>
      simp only [charsOfItems, List.length_append, List.length_cons] at enough
      have read := first fuel (',' :: (charsOfItems (next :: items) ++ ']' :: rest))
        (endsNumeral_cons (by decide) _) (by omega)
      have others := inductionHypothesis (by simp)
        (fun item member => each item (List.mem_cons_of_mem _ member)) fuel (by omega)
      simp only [charsOfItems, List.append_assoc, List.cons_append]
      rw [read]
      simp [skipBlanks, reprintedItems, others]

/-- A quoted name is read back, up to what follows it. -/
theorem readString_quote_append (name : String) (rest : List Char) :
    ∃ text, quote name ++ rest = '"' :: text ∧ readString text = some (name, rest) :=
  ⟨_, by simp [quote], readString_quoted name rest⟩

/-- Fields that are read back one by one are read back together. -/
theorem readFields_chars {depth : Nat} {fields : List (String × Document)} (some : fields ≠ [])
    (each : ∀ field ∈ fields, ReadsBack depth field.2) (fuel : Nat) (rest : List Char)
    (enough : 2 * (charsOfFields fields).length + 1 ≤ fuel) :
    readFields fuel depth (charsOfFields fields ++ '}' :: rest) =
      .some (reprintedFields fields, rest) := by
  induction fields generalizing fuel with
  | nil => exact absurd rfl some
  | cons field fields inductionHypothesis =>
    obtain ⟨name, value⟩ := field
    obtain ⟨fuel, rfl⟩ := Nat.exists_eq_succ_of_ne_zero (show fuel ≠ 0 by omega)
    have first : ReadsBack depth value := each _ (List.mem_cons_self ..)
    unfold readFields
    cases fields with
    | nil =>
      have read := first fuel ('}' :: rest) (endsNumeral_cons (by decide) rest)
        (by simp only [charsOfFields, List.length_append, List.length_cons] at enough; omega)
      obtain ⟨text, quoted, named⟩ :=
        readString_quote_append name (':' :: (value.chars ++ '}' :: rest))
      simp only [charsOfFields, List.append_assoc, List.cons_append]
      rw [quoted, skipBlanks_cons (by decide)]
      simp only [named]
      rw [skipBlanks_cons (by decide)]
      simp only [read]
      simp [skipBlanks, reprintedFields]
    | cons next fields =>
      simp only [charsOfFields, List.length_append, List.length_cons] at enough
      have read := first fuel (',' :: (charsOfFields (next :: fields) ++ '}' :: rest))
        (endsNumeral_cons (by decide) _) (by omega)
      have others := inductionHypothesis (by simp)
        (fun field member => each field (List.mem_cons_of_mem _ member)) fuel (by omega)
      obtain ⟨text, quoted, named⟩ := readString_quote_append name
        (':' :: (value.chars ++ ',' :: (charsOfFields (next :: fields) ++ '}' :: rest)))
      simp only [charsOfFields, List.append_assoc, List.cons_append]
      rw [quoted, skipBlanks_cons (by decide)]
      simp only [named]
      rw [skipBlanks_cons (by decide)]
      simp only [read]
      simp [skipBlanks, reprintedFields, others]

/-- A number is read where a document may stand. -/
theorem readValue_number {value : Number} (inRange : value.InRange) (depth : Nat) :
    ReadsBack depth (.number value) := by
  intro fuel rest ends enough
  obtain ⟨c, more, chars, first⟩ := value.head_chars
  have positive : 0 < value.chars.length := by simp [chars]
  obtain ⟨fuel, rfl⟩ := Nat.exists_eq_succ_of_ne_zero
    (show fuel ≠ 0 by simp only [Document.chars] at enough; omega)
  have other := Number.first_notMem first
  have read := Number.read_chars inRange ends
  have solid := skipBlanks_chars (.number value) rest
  simp only [Document.chars] at solid ⊢
  unfold readValue
  rw [solid]
  rw [chars, List.cons_append] at read ⊢
  simp only [List.mem_cons, not_or] at other
  split
  all_goals first
    | (rename_i same; exact absurd (List.cons.inj same).1 (by simp [other]))
    | skip
  rw [read]
  rfl

/-- A document that a text denotes (`Readable`) is read back from its own text. -/
theorem Readable.readsBack {depth : Nat} {document : Document} (readable : Readable depth document) :
    ReadsBack depth document := by
  induction readable with
  | number inRange => exact readValue_number inRange _
  | null =>
    rintro (_ | fuel) rest ends enough
    · simp [Document.chars] at enough
    · simp [Document.chars, readValue, skipBlanks, readWord, reprinted]
  | @boolean _ value =>
    rintro (_ | fuel) rest ends enough
    · cases value <;> simp [Document.chars] at enough
    · cases value <;> simp [Document.chars, readValue, skipBlanks, readWord, reprinted]
  | text =>
    rintro (_ | fuel) rest ends enough
    · simp [Document.chars, quote] at enough
    · simp [Document.chars, quote, readValue, skipBlanks, readString_quoted, reprinted]
  | @array depth items nested each inductionHypothesis =>
    rintro (_ | fuel) rest ends enough
    · simp [Document.chars] at enough
    simp only [Document.chars, List.length_append, List.length_cons, List.cons_append,
      List.append_assoc, List.nil_append] at enough ⊢
    unfold readValue
    rw [skipBlanks_cons (by decide)]
    simp only [if_neg (Nat.not_le.mpr nested)]
    cases items with
    | nil => simp [charsOfItems, skipBlanks, reprinted, reprintedItems]
    | cons item items =>
      have read := readItems_chars (by simp) inductionHypothesis fuel rest (by omega)
      obtain ⟨c, more, chars, starts⟩ := head_charsOfItems item items
      have closing : c ≠ ']' := by
        rintro rfl
        exact starts.solid (by decide)
      rw [chars, List.cons_append] at read ⊢
      rw [skipBlanks_cons starts.solid]
      split
      · rename_i same
        exact absurd (List.cons.inj same).1 closing
      · rw [read]
        rfl
  | @object depth fields nested ascending each inductionHypothesis =>
    rintro (_ | fuel) rest ends enough
    · simp [Document.chars] at enough
    simp only [Document.chars, List.length_append, List.length_cons, List.cons_append,
      List.append_assoc, List.nil_append] at enough ⊢
    unfold readValue
    rw [skipBlanks_cons (by decide)]
    simp only [if_neg (Nat.not_le.mpr nested)]
    cases fields with
    | nil => simp [charsOfFields, skipBlanks, reprinted, reprintedFields]
    | cons field fields =>
      have read := readFields_chars (by simp) inductionHypothesis fuel rest (by omega)
      obtain ⟨more, chars⟩ := head_charsOfFields field fields
      rw [chars, List.cons_append] at read ⊢
      rw [skipBlanks_cons (by decide)]
      split
      · rename_i same
        exact absurd (List.cons.inj same).1 (by decide)
      · rw [read, Option.map_some, ofFields, (ascending_reprintedFields ascending).ofList_eq]
        rfl

/-- A document that a text denotes is printed as a text that denotes what it is reprinted as. -/
theorem Readable.read_render {document : Document} (readable : Readable depthLimit document) :
    read document.render = some document.reprinted := by
  have reads := readable.readsBack (2 * document.chars.length + 2) []
    (by intro c head; cases head) (by omega)
  rw [List.append_nil] at reads
  unfold read readChars render
  rw [String.toList_ofList, reads]
  rfl

/-! ### What texts denote -/

/-- A numeral denotes an integer only if it fits 64 bits. -/
theorem inRange_of_toNumber {numeral : Numeral} {negative : Bool} {value : Number}
    (denotes : numeral.toNumber negative = some value) : value.InRange := by
  unfold Numeral.toNumber at denotes
  split at denotes
  · rename_i integer found
    cases denotes
    unfold Numeral.integer? at found
    simp only [Nat.pow_eq] at found
    change -2 ^ 63 ≤ integer ∧ integer < 2 ^ 64
    split at found
    · cases found
    · split at found
      · split at found
        · cases found
        · cases found
          omega
      · split at found
        · cases found
          omega
        · cases found
  · obtain ⟨magnitude, -, rfl⟩ := Option.map_eq_some_iff.mp denotes
    trivial

/-- A number that is read is one that texts denote (`InRange`). -/
theorem inRange_of_read {text rest : List Char} {value : Number}
    (read : Number.read text = some (value, rest)) : value.InRange := by
  unfold Number.read at read
  simp only [Option.bind_eq_bind, Option.bind_eq_some_iff] at read
  obtain ⟨⟨numeral, more⟩, -, number, denotes, same⟩ := read
  cases same
  exact inRange_of_toNumber denotes

/-- Whether the reader, given some steps, gives nothing but what texts denote. -/
structure GivesReadable (fuel : Nat) : Prop where
  value : ∀ {depth text document rest}, readValue fuel depth text = some (document, rest) →
    Readable depth document
  items : ∀ {depth text items rest}, readItems fuel depth text = some (items, rest) →
    ∀ item ∈ items, Readable depth item
  fields : ∀ {depth text fields rest}, readFields fuel depth text = some (fields, rest) →
    ∀ field ∈ fields, Readable depth field.2

variable {fuel depth : Nat} {text rest : List Char}

/-- One more step gives a value. -/
theorem GivesReadable.readValue (gives : GivesReadable fuel) {document : Document}
    (read : readValue (fuel + 1) depth text = some (document, rest)) : Readable depth document := by
  unfold Document.readValue at read
  split at read
  · obtain ⟨found, -, same⟩ := Option.map_eq_some_iff.mp read
    cases same
    exact .text
  · split at read
    · cases read
    · rename_i nested
      split at read
      · cases read
        exact .array (by omega) (by simp)
      · obtain ⟨found, items, same⟩ := Option.map_eq_some_iff.mp read
        cases same
        exact .array (by omega) (gives.items items)
  · split at read
    · cases read
    · rename_i nested
      split at read
      · cases read
        exact .object (by omega) .nil (by simp)
      · obtain ⟨found, fields, same⟩ := Option.map_eq_some_iff.mp read
        cases same
        refine .object (by omega) (KeyedList.ascending_ofList _) fun field member => ?_
        rcases KeyedList.mem_insertAll member with written | none
        · exact gives.fields fields field written
        · cases none
  · obtain ⟨found, -, same⟩ := Option.map_eq_some_iff.mp read
    cases same
    exact .null
  · obtain ⟨found, -, same⟩ := Option.map_eq_some_iff.mp read
    cases same
    exact .boolean
  · obtain ⟨found, -, same⟩ := Option.map_eq_some_iff.mp read
    cases same
    exact .boolean
  · obtain ⟨found, number, same⟩ := Option.map_eq_some_iff.mp read
    cases same
    exact .number (inRange_of_read number)

/-- One more step gives items. -/
theorem GivesReadable.readItems (gives : GivesReadable fuel) {items : List Document}
    (read : readItems (fuel + 1) depth text = some (items, rest)) :
    ∀ item ∈ items, Readable depth item := by
  unfold Document.readItems at read
  split at read
  · cases read
  · rename_i item more first
    have readable := gives.value first
    split at read
    · cases read
      simpa using readable
    · obtain ⟨others, readOthers, same⟩ := Option.map_eq_some_iff.mp read
      cases same
      exact List.forall_mem_cons.mpr ⟨readable, gives.items readOthers⟩
    · cases read

/-- One more step gives fields. -/
theorem GivesReadable.readFields (gives : GivesReadable fuel) {fields : List (String × Document)}
    (read : readFields (fuel + 1) depth text = some (fields, rest)) :
    ∀ field ∈ fields, Readable depth field.2 := by
  unfold Document.readFields at read
  split at read
  · split at read
    · cases read
    · split at read
      · split at read
        · cases read
        · rename_i value more first
          have readable := gives.value first
          split at read
          · cases read
            simpa using readable
          · obtain ⟨others, readOthers, same⟩ := Option.map_eq_some_iff.mp read
            cases same
            exact List.forall_mem_cons.mpr ⟨readable, gives.fields readOthers⟩
          · cases read
      · cases read
  · cases read

/-- However many steps it is given, the reader gives nothing but what texts denote
(`GivesReadable`). -/
theorem givesReadable (fuel : Nat) : GivesReadable fuel := by
  induction fuel with
  | zero => exact ⟨by simp [readValue], by simp [readItems], by simp [readFields]⟩
  | succ fuel gives => exact ⟨gives.readValue, gives.readItems, gives.readFields⟩

/-- A document that `Document.read` gives can be read back: it is `Readable`. -/
theorem readable_of_read {text : String} {document : Document} (denotes : read text = some document) :
    Readable depthLimit document := by
  unfold read readChars at denotes
  split at denotes
  · rename_i found
    split at denotes
    · cases denotes
      exact (givesReadable _).value found
    · cases denotes
  · cases denotes

end Document

end OfflineSync
