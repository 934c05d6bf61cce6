import OfflineSync.Proofs.Document.Reprinting

/-!
# What a text tells of its document

Where the text of a document ends can be told from the text, `delimits`. So documents of one text
are `Alike`: they have the same structure, the same names in the same order and the same texts, and
their numbers are written alike. Nothing is assumed of the documents: they may be nested deeper than
the reader goes, and their names need not ascend.
-/

namespace OfflineSync

/-- Whether a text that follows a value starts with what may follow one, if it goes on. -/
def Closes (rest : List Char) : Prop :=
  ∀ c ∈ rest.head?, c ∈ [',', ']', '}']

theorem closes_cons {c : Char} (closing : c ∈ [',', ']', '}']) (rest : List Char) :
    Closes (c :: rest) := by
  rintro _ ⟨⟩
  exact closing

namespace Number

/-- The characters that numbers are written with. -/
def isPart (c : Char) : Bool :=
  c.isDigit || c == '.' || c == 'e' || c == '-' || c == '+'

/-- A number is written with digits, a point, an exponent mark and signs. -/
theorem isPart_of_mem {number : Number} {c : Char} (member : c ∈ number.chars) : isPart c := by
  have digits : ∀ value : Nat, c ∈ Nat.toDigits 10 value → isPart c := fun value digit => by
    simp [isPart, (Numeral.digits_toDigits value).all c digit]
  cases number with
  | integer value =>
    by_cases negative : value < 0
    · simp only [chars, negative, if_true] at member
      rcases List.mem_cons.mp member with rfl | digit
      · rfl
      · exact digits _ digit
    · simp only [chars, negative, if_false] at member
      exact digits _ member
  | float value =>
    rw [chars, value.render_eq, List.mem_append] at member
    rcases member with sign | part
    · split at sign
      · cases List.mem_singleton.mp sign
        rfl
      · cases sign
    · rcases value.written_numeral.of_mem part with digit | rfl | rfl | ⟨exponent, -, rfl⟩
      · simp [isPart, digit]
      · rfl
      · rfl
      · split <;> rfl

/-- What follows a number is what is left once the characters of numbers are dropped. -/
theorem dropWhile_chars {number : Number} {rest : List Char} (closes : Closes rest) :
    (number.chars ++ rest).dropWhile isPart = rest := by
  rw [List.dropWhile_append_of_pos fun c member => isPart_of_mem member]
  cases rest with
  | nil => rfl
  | cons c rest =>
    have closing := closes c rfl
    refine List.dropWhile_cons_of_neg ?_
    simp only [List.mem_cons, List.not_mem_nil, or_false] at closing
    rcases closing with rfl | rfl | rfl <;> decide

end Number

namespace Document

/-- Whether the text of a document ends where it does, however it goes on (`Closes`). -/
def Delimits (document : Document) : Prop :=
  ∀ ⦃other : Document⦄ ⦃rest otherRest : List Char⦄, Closes rest → Closes otherRest →
    document.chars ++ rest = other.chars ++ otherRest → rest = otherRest

/-- Quoted strings that two texts start with are the same, and so is what follows. -/
theorem quote_append_inj {left right : String} {leftRest rightRest : List Char}
    (same : quote left ++ leftRest = quote right ++ rightRest) :
    left = right ∧ leftRest = rightRest := by
  obtain ⟨text, leftText, leftRead⟩ := readString_quote_append left leftRest
  obtain ⟨other, rightText, rightRead⟩ := readString_quote_append right rightRest
  rw [leftText, rightText] at same
  cases same
  exact Prod.mk.inj (Option.some.inj (leftRead.symm.trans rightRead))

/-- The forms of documents, and what a word says. -/
inductive Form where
  | null
  | boolean (value : Bool)
  | number
  | text
  | array
  | object
  deriving DecidableEq

/-- The form of a document. -/
def form : Document → Form
  | .null => .null
  | .boolean value => .boolean value
  | .number _ => .number
  | .text _ => .text
  | .array _ => .array
  | .object _ => .object

/-- The form of the documents that start with a character. -/
def formOf (c : Char) : Form :=
  if c = 'n' then .null
  else if c = 't' then .boolean true
  else if c = 'f' then .boolean false
  else if c = '"' then .text
  else if c = '[' then .array
  else if c = '\x7b' then .object
  else .number

/-- A document starts with a character of its form. -/
theorem head_form (document : Document) :
    ∃ c rest, document.chars = c :: rest ∧ formOf c = document.form := by
  cases document with
  | number value =>
    obtain ⟨c, rest, written, first⟩ := value.head_chars
    refine ⟨c, rest, written, ?_⟩
    have other := Number.first_notMem first
    simp only [List.mem_cons, List.not_mem_nil, or_false, not_or] at other
    simp [formOf, form, other]
  | boolean value => cases value <;> exact ⟨_, _, rfl, by decide⟩
  | null | text | array | object => exact ⟨_, _, rfl, rfl⟩

/-- A text tells the form of the document that it starts with, by `head_form`. -/
theorem form_eq {left right : Document} {leftRest rightRest : List Char}
    (same : left.chars ++ leftRest = right.chars ++ rightRest) : left.form = right.form := by
  obtain ⟨c, more, written, first⟩ := left.head_form
  obtain ⟨d, others, writtenToo, second⟩ := right.head_form
  rw [written, writtenToo] at same
  cases (List.cons.inj same).1
  exact first.symm.trans second

/-! ### Where documents end -/

/-- What follows the first of some items or fields: the others behind a comma, or the
bracket that closes them. -/
def following {α : Type} (write : List α → List Char) (closing : Char) (others : List α)
    (rest : List Char) : List Char :=
  match others with
  | [] => closing :: rest
  | _ :: _ => ',' :: (write others ++ closing :: rest)

theorem charsOfItems_following (item : Document) (items : List Document) (rest : List Char) :
    charsOfItems (item :: items) ++ ']' :: rest =
      item.chars ++ following charsOfItems ']' items rest := by
  cases items <;> simp [charsOfItems, following]

theorem charsOfFields_following (name : String) (value : Document)
    (fields : List (String × Document)) (rest : List Char) :
    charsOfFields ((name, value) :: fields) ++ '\x7d' :: rest =
      quote name ++ ':' :: (value.chars ++ following charsOfFields '\x7d' fields rest) := by
  cases fields <;> simp [charsOfFields, following]

section Following

variable {α : Type} {write : List α → List Char} {closing : Char} {items others : List α}
  {rest otherRest : List Char}

theorem closes_following (bracket : closing ∈ [']', '}']) :
    Closes (following write closing items rest) := by
  cases items with
  | nil => exact closes_cons (List.mem_cons_of_mem _ bracket) rest
  | cons item items => exact closes_cons (List.mem_cons_self ..) _

/-- Where the first ends, either both lists end or both go on. -/
theorem following_inj (bracket : closing ∈ [']', '}'])
    (same : following write closing items rest = following write closing others otherRest) :
    (items = [] ∧ others = [] ∧ rest = otherRest) ∨
      (items ≠ [] ∧ others ≠ [] ∧
        write items ++ closing :: rest = write others ++ closing :: otherRest) := by
  have other : closing ≠ ',' := by
    rintro rfl
    exact absurd bracket (by decide)
  cases items with
  | nil =>
    cases others with
    | nil => exact .inl ⟨rfl, rfl, (List.cons.inj same).2⟩
    | cons next others => exact absurd (List.cons.inj same).1 other
  | cons item items =>
    cases others with
    | nil => exact absurd (List.cons.inj same).1.symm other
    | cons next others => exact .inr ⟨by simp, by simp, (List.cons.inj same).2⟩

end Following

/-- Items whose ends can be told end together. -/
theorem items_end {items others : List Document} {rest otherRest : List Char}
    (each : ∀ item ∈ items, Delimits item)
    (same : charsOfItems items ++ ']' :: rest = charsOfItems others ++ ']' :: otherRest) :
    rest = otherRest := by
  induction items generalizing others with
  | nil =>
    cases others with
    | nil => exact (List.cons.inj same).2
    | cons other others =>
      obtain ⟨c, more, written, starts⟩ := head_charsOfItems other others
      rw [written] at same
      exact absurd (by simp [← (List.cons.inj same).1]) starts.solid
  | cons item items inductionHypothesis =>
    obtain ⟨first, later⟩ := List.forall_mem_cons.mp each
    cases others with
    | nil =>
      obtain ⟨c, more, written, starts⟩ := head_charsOfItems item items
      rw [written] at same
      exact absurd (by simp [(List.cons.inj same).1]) starts.solid
    | cons other others =>
      rw [charsOfItems_following, charsOfItems_following] at same
      have ends := first (closes_following (by decide)) (closes_following (by decide)) same
      rcases following_inj (by decide) ends with ⟨-, -, closed⟩ | ⟨-, -, goOn⟩
      · exact closed
      · exact inductionHypothesis later goOn

/-- Whether two fields have one name and values of one text. -/
def SameField (left right : String × Document) : Prop :=
  left.1 = right.1 ∧ left.2.chars = right.2.chars

/-- Fields whose ends can be told end together, and have the same names and the same
texts. -/
theorem fields_end {fields others : List (String × Document)} {rest otherRest : List Char}
    (each : ∀ field ∈ fields, Delimits field.2)
    (same : charsOfFields fields ++ '}' :: rest = charsOfFields others ++ '}' :: otherRest) :
    List.Forall₂ SameField fields others ∧ rest = otherRest := by
  induction fields generalizing others with
  | nil =>
    cases others with
    | nil => exact ⟨.nil, (List.cons.inj same).2⟩
    | cons other others =>
      obtain ⟨more, written⟩ := head_charsOfFields other others
      rw [written] at same
      exact absurd (List.cons.inj same).1 (by decide)
  | cons field fields inductionHypothesis =>
    obtain ⟨first, later⟩ := List.forall_mem_cons.mp each
    cases others with
    | nil =>
      obtain ⟨more, written⟩ := head_charsOfFields field fields
      rw [written] at same
      exact absurd (List.cons.inj same).1 (by decide)
    | cons other others =>
      obtain ⟨name, value⟩ := field
      obtain ⟨otherName, otherValue⟩ := other
      rw [charsOfFields_following, charsOfFields_following] at same
      obtain ⟨names, values⟩ := quote_append_inj same
      have values := (List.cons.inj values).2
      have ends := first (closes_following (by decide)) (closes_following (by decide)) values
      rw [ends] at values
      have fieldsAlike : SameField (name, value) (otherName, otherValue) :=
        ⟨names, List.append_cancel_right values⟩
      rcases following_inj (by decide) ends with ⟨rfl, rfl, closed⟩ | ⟨-, -, goOn⟩
      · exact ⟨.cons fieldsAlike .nil, closed⟩
      · obtain ⟨alike, closed⟩ := inductionHypothesis later goOn
        exact ⟨.cons fieldsAlike alike, closed⟩

mutual

/-- The end of a document can be told from its text: every document `Delimits`. -/
theorem delimits : (document : Document) → Delimits document
  | .null => by
    intro other rest otherRest closes otherCloses same
    have form := form_eq same
    cases other <;> cases form
    simpa [chars] using same
  | .boolean value => by
    intro other rest otherRest closes otherCloses same
    have form := form_eq same
    cases other <;> cases form
    exact List.append_cancel_left same
  | .number value => by
    intro other rest otherRest closes otherCloses same
    have form := form_eq same
    cases other <;> cases form
    simp only [chars] at same
    rw [← Number.dropWhile_chars closes, same, Number.dropWhile_chars otherCloses]
  | .text value => by
    intro other rest otherRest closes otherCloses same
    have form := form_eq same
    cases other <;> cases form
    exact (quote_append_inj same).2
  | .array items => by
    intro other rest otherRest closes otherCloses same
    have form := form_eq same
    cases other <;> cases form
    simp only [chars, List.cons_append, List.append_assoc, List.nil_append, List.cons.injEq,
      true_and] at same
    exact items_end (delimitsItems items) same
  | .object fields => by
    intro other rest otherRest closes otherCloses same
    have form := form_eq same
    cases other <;> cases form
    simp only [chars, List.cons_append, List.append_assoc, List.nil_append, List.cons.injEq,
      true_and] at same
    exact (fields_end (delimitsFields fields) same).2

theorem delimitsItems : (items : List Document) → ∀ item ∈ items, Delimits item
  | [] => by simp
  | item :: items => List.forall_mem_cons.mpr ⟨delimits item, delimitsItems items⟩

theorem delimitsFields : (fields : List (String × Document)) → ∀ field ∈ fields, Delimits field.2
  | [] => by simp
  | (_, value) :: fields => List.forall_mem_cons.mpr ⟨delimits value, delimitsFields fields⟩

end

/-- Whether two documents are one, are numbers written alike, or have items or fields
that are written alike. -/
inductive Alike : Document → Document → Prop where
  | same (document : Document) : Alike document document
  | number {left right : Number} (written : left.chars = right.chars) :
      Alike (.number left) (.number right)
  | array (left right : List Document) : Alike (.array left) (.array right)
  | object {left right : List (String × Document)} (written : List.Forall₂ SameField left right) :
      Alike (.object left) (.object right)

/-- Documents of one text are `Alike`. -/
theorem alike_of_chars {left right : Document} (same : left.chars = right.chars) :
    Alike left right := by
  have form : left.form = right.form := form_eq (congrArg (· ++ []) same)
  cases left <;> cases right <;> cases form
  · exact .same _
  · exact .same _
  · exact .number same
  · obtain ⟨equal, -⟩ := quote_append_inj (congrArg (· ++ []) same)
    exact equal ▸ .same _
  · exact .array _ _
  · rename_i fields others
    have closed : charsOfFields fields ++ '}' :: [] = charsOfFields others ++ '}' :: [] := by
      simpa [chars] using same
    exact .object (fields_end (delimitsFields fields) closed).1

/-- Fields of the same texts are alike under each name. -/
theorem alike_get? {left right : List (String × Document)}
    (written : List.Forall₂ SameField left right) (name : String) :
    Option.Rel Alike (KeyedList.get? name left) (KeyedList.get? name right) := by
  induction written with
  | nil => exact .none
  | @cons field other fields others first later inductionHypothesis =>
    obtain ⟨names, values⟩ := first
    simp only [KeyedList.get?, names]
    split
    · exact .some (alike_of_chars values)
    · exact inductionHypothesis

/-- Documents of one text are alike in each of their fields. -/
theorem alike_field? {left right : Document} (same : left.chars = right.chars) (name : String) :
    Option.Rel Alike (left.field? name) (right.field? name) := by
  cases alike_of_chars same with
  | same =>
    cases left.field? name with
    | none => exact .none
    | some value => exact .some (.same value)
  | number written => exact .none
  | array => exact .none
  | object written => exact alike_get? written name

end Document

end OfflineSync
