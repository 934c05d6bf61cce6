import OfflineSync.Proofs.Document.Reprinting

/-!
# Fields of documents

An object is known by its fields. The lemmas say what setting a field, overlaying an object and
reprinting do to each field (`field?_setField`, `field?_overlay`, `field?_reprinted`), and that what
is `Readable` stays so.
-/

namespace OfflineSync.Document

variable {document older newer value : Document} {name other : String} {depth : Nat}

/-- An object has fields. -/
theorem isObject_iff : document.isObject ↔ ∃ fields, document = .object fields := by
  cases document <;> simp [isObject, fields?]

/-- The documents with fields are objects. -/
theorem fields?_eq_some {fields : List (String × Document)} :
    document.fields? = some fields ↔ document = .object fields := by
  cases document <;> simp [fields?]

@[simp] theorem isObject_setField :
    (document.setField name value).isObject = document.isObject := by
  cases document <;> rfl

/-- A field that `setField` sets has its new value, and every other field stays. -/
@[simp] theorem field?_setField (object : document.isObject) :
    (document.setField name value).field? other =
      if name = other then some value else document.field? other := by
  obtain ⟨fields, rfl⟩ := isObject_iff.mp object
  exact KeyedList.get?_insert name other value fields

/-- Each field of a document is reprinted by itself. -/
@[simp] theorem field?_reprinted :
    document.reprinted.field? name = (document.field? name).map reprinted := by
  cases document with
  | object fields =>
    change KeyedList.get? name (reprintedFields fields) = (KeyedList.get? name fields).map reprinted
    rw [reprintedFields_eq_map, KeyedList.get?_map]
  | _ => rfl

/-- The fields of a document that the reader gives back are given back. -/
theorem reprinted_field (back : document.reprinted = document) (found : document.field? name = some value) :
    value.reprinted = value := by
  have same : (document.field? name).map reprinted = document.field? name := by
    rw [← field?_reprinted, back]
  rw [found] at same
  exact Option.some.inj same

@[simp] theorem isObject_reprinted : document.reprinted.isObject = document.isObject := by
  cases document <;> rfl

/-- A document that a text denotes still does so with a field set. -/
theorem Readable.setField (readable : Readable depth document)
    (inner : Readable (depth - 1) value) : Readable depth (document.setField name value) := by
  cases readable with
  | object nested ascending each =>
    refine .object nested (ascending.insert name value) fun field member => ?_
    rcases KeyedList.mem_insert member with rfl | held
    · exact inner
    · exact each field held
  | _ => constructor <;> assumption

/-- What a text is read as can be read back in turn, as `reprinted`. -/
theorem Readable.reprinted (readable : Readable depthLimit document) :
    Readable depthLimit document.reprinted :=
  readable_of_read readable.read_render

/-- What may stand at a depth may stand where less has been opened. -/
theorem Readable.mono {wider : Nat} (readable : Readable depth document) (within : depth ≤ wider) :
    Readable wider document := by
  induction readable generalizing wider with
  | null => exact .null
  | boolean => exact .boolean
  | number inRange => exact .number inRange
  | text => exact .text
  | array nested each inductionHypothesis =>
    exact .array (nested.trans_le within) fun item among =>
      inductionHypothesis item among (Nat.sub_le_sub_right within 1)
  | object nested ascending each inductionHypothesis =>
    exact .object (nested.trans_le within) ascending fun field among =>
      inductionHypothesis field among (Nat.sub_le_sub_right within 1)

/-- A field of what a text denotes may have come as a text too. -/
theorem Readable.field (readable : Readable depth document)
    (found : document.field? name = some value) : Readable depth value := by
  cases readable with
  | object nested ascending each =>
    exact (each (name, value) (KeyedList.mem_of_get? found)).mono (Nat.sub_le depth 1)
  | null | boolean | number | text | array => cases found

/-- An item of what a text denotes may have come as a text too. -/
theorem Readable.item {items : List Document} (readable : Readable depth (.array items)) :
    ∀ item ∈ items, Readable depth item := by
  cases readable with
  | array nested each => exact fun item among => (each item among).mono (Nat.sub_le depth 1)

/-- The names of an object that can be read back ascend. -/
theorem Readable.ascending {fields : List (String × Document)}
    (readable : Readable depth (.object fields)) : KeyedList.Ascending fields := by
  cases readable with
  | object nested ascending each => exact ascending

/-- Whether each name of an object stands once, in ascending order. -/
def Ascends (document : Document) : Prop :=
  ∀ fields, document = .object fields → KeyedList.Ascending fields

/-- What a text denotes is in order. -/
theorem Readable.ascends (readable : Readable depth document) : document.Ascends := by
  rintro fields rfl
  exact readable.ascending

/-- A field that `setField` sets takes its place in the order. -/
theorem Ascends.setField (ascends : document.Ascends) : (document.setField name value).Ascends := by
  intro fields set
  cases document with
  | object present =>
    cases set
    exact (ascends present rfl).insert name value
  | null | boolean | number | text | array => cases set

theorem Ascends.setFieldIfAbsent (ascends : document.Ascends) :
    (document.setFieldIfAbsent name value).Ascends := by
  unfold Document.setFieldIfAbsent
  split
  · exact ascends
  · exact ascends.setField

/-- The fields of a newer object win, in an `overlay`, over those of an older document. -/
theorem field?_overlay (object : newer.isObject) (ascends : newer.Ascends) :
    (older.overlay newer).field? name = (newer.field? name).or (older.field? name) := by
  obtain ⟨incoming, rfl⟩ := isObject_iff.mp object
  cases older with
  | object present => exact KeyedList.get?_insertAll (ascends incoming rfl) name present
  | null | boolean | number | text | array => exact (Option.or_none).symm

/-- What is left where an object is laid over anything is an object. -/
theorem isObject_overlay (object : newer.isObject) : (older.overlay newer).isObject := by
  obtain ⟨incoming, rfl⟩ := isObject_iff.mp object
  cases older <;> rfl

/-- An object that is laid over anything keeps its fields. -/
theorem field?_overlay_of_some (ascends : newer.Ascends) (found : newer.field? name = some value) :
    (older.overlay newer).field? name = some value := by
  cases newer with
  | object incoming => rw [field?_overlay rfl ascends, found, Option.some_or]
  | null | boolean | number | text | array => cases found

/-- Documents that texts denote can be laid over each other. -/
theorem Readable.overlay (olderReadable : Readable depth older)
    (newerReadable : Readable depth newer) : Readable depth (older.overlay newer) := by
  cases older with
  | object present =>
    cases newer with
    | object incoming =>
      cases olderReadable with
      | object nested ascending each =>
        cases newerReadable with
        | object _ _ eachIncoming =>
          refine .object nested (ascending.insertAll incoming) fun field member => ?_
          rcases KeyedList.mem_insertAll member with added | held
          · exact eachIncoming field added
          · exact each field held
    | null | boolean | number | text | array => exact newerReadable
  | null | boolean | number | text | array => exact newerReadable

/-- Objects in order (`Ascends`) that have the same fields are the same. -/
theorem Ascends.ext (ascends : document.Ascends) (valueAscends : value.Ascends)
    (object : document.isObject) (valueObject : value.isObject)
    (same : ∀ name, document.field? name = value.field? name) : document = value := by
  obtain ⟨fields, rfl⟩ := isObject_iff.mp object
  obtain ⟨others, rfl⟩ := isObject_iff.mp valueObject
  congr 1
  exact (ascends fields rfl).ext (valueAscends others rfl) same

/-- Nothing is left of an older object whose fields all stand in the newer one. -/
theorem overlay_eq (olderReadable : Readable depth older) (newerReadable : Readable depth newer)
    (olderObject : older.isObject) (newerObject : newer.isObject)
    (covered : ∀ name, (older.field? name).isSome → (newer.field? name).isSome) :
    older.overlay newer = newer := by
  refine (olderReadable.overlay newerReadable).ascends.ext newerReadable.ascends ?_ newerObject
    fun name => ?_
  · obtain ⟨present, rfl⟩ := isObject_iff.mp olderObject
    obtain ⟨incoming, rfl⟩ := isObject_iff.mp newerObject
    rfl
  · rw [field?_overlay newerObject newerReadable.ascends]
    have held := covered name
    cases newly : newer.field? name with
    | some value => rfl
    | none =>
      rw [newly] at held
      cases before : older.field? name with
      | none => rfl
      | some value =>
        rw [before] at held
        exact absurd (held rfl) Bool.false_ne_true

/-- A text or null is a document at any depth. -/
theorem readable_optionalText (text : Option String) : Readable depth (.optionalText text) := by
  cases text with
  | none => exact .null
  | some text => exact .text

end OfflineSync.Document
