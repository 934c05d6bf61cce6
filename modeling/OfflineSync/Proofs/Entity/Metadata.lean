import OfflineSync.Entity.Metadata
import OfflineSync.Proofs.Document.Fields
import OfflineSync.Proofs.Document.Positional
import OfflineSync.Proofs.Entity.Names
import OfflineSync.Proofs.Fallible

/-!
# Entities stay entities

A document is an entity, `Document.IsEntity`, when it carries a well-formed identity and no
ill-formed moment of change. Neither a new version nor reprinting takes that from it, `setVersion`
and `reprinted`. An identity that is a number may be read back as another, and is well formed
still.
-/

namespace OfflineSync

/-! ### Identities that are numbers -/

theorem isLetterOrDigit_of_isDigit {c : Char} (digit : c.isDigit) : isLetterOrDigit c := by
  have bounds : '0' ≤ c ∧ c ≤ '9' := by simpa [Char.isDigit, Char.le_def] using digit
  simp [isLetterOrDigit, bounds]

/-- The text of a number of few places is a valid identity. -/
theorem Binary64.Positional.validate {value : Binary64} (positional : value.Positional) :
    EntityId.validate (Number.float value).render = .ok () := by
  have chars : (Number.float value).chars = value.numeral.chars := by
    rw [Number.chars, value.render_eq, positional.positive]
    rfl
  obtain ⟨c, rest, written, digit⟩ := value.written_numeral.head
  refine EntityId.validate_eq_ok.mpr ⟨?_, ?_, ?_⟩
  · simp [Number.render, chars, written]
  · have short := positional.length_chars_le
    simp [Number.render, chars, EntityId.mostCharacters]
    omega
  · have follow : ∀ c ∈ value.numeral.chars, EntityId.mayFollow c := by
      intro c member
      rcases value.written_numeral.of_mem member with digit | rfl | rfl | ⟨exponent, marked, rfl⟩
      · simp [EntityId.mayFollow, isLetterOrDigit_of_isDigit digit]
      · decide
      · decide
      · obtain ⟨same, out⟩ := exponent_numeral marked
        have small := positional.small
        rw [if_pos (by omega)]
        decide
    rw [Number.render, String.toList_ofList, chars]
    rw [written] at follow ⊢
    simp only [EntityId.wellFormed, Bool.and_eq_true, List.all_eq_true]
    exact ⟨isLetterOrDigit_of_isDigit digit, fun c member => follow c (List.mem_cons_of_mem _ member)⟩

/-- A number whose text is a valid identity has few places. -/
theorem Binary64.positional_of_validate {value : Binary64}
    (valid : EntityId.validate (Number.float value).render = .ok ()) : value.Positional := by
  obtain ⟨-, -, formed⟩ := EntityId.validate_eq_ok.mp valid
  rw [Number.render, String.toList_ofList, Number.chars, value.render_eq] at formed
  constructor
  · by_contra negative
    rw [Bool.not_eq_false] at negative
    simp only [negative, if_true, List.cons_append, EntityId.wellFormed, Bool.and_eq_true] at formed
    exact absurd formed.1 (by decide)
  · by_contra above
    have marked : value.numeral.exponent = some value.shortestDecimal.leadingExponent := by
      unfold numeral
      dsimp only
      rw [if_neg (fun range => above range.2)]
    have sign : '+' ∈ value.numeral.chars := by
      have positive : ¬ value.shortestDecimal.leadingExponent < 0 := by omega
      unfold Numeral.chars
      rw [marked, Option.map_some, Option.getD_some, if_neg positive]
      simp
    have follows := EntityId.mayFollow_of_wellFormed formed '+' (List.mem_append_right _ sign)
    exact absurd follows (by decide)

/-! ### Documents of entities -/

namespace EntityMetadata

variable {document value : Document} {metadata : EntityMetadata} {id : String}

/-- A document has metadata exactly when it is an object with a valid identity and a
moment of change that can be read, if it has one. -/
theorem ofDocument_eq_ok :
    ofDocument document = .ok metadata ↔
      document.isObject ∧ idOf document = .ok metadata.id ∧ EntityId.validate metadata.id = .ok () ∧
        updatedAtOf document = .ok metadata.updatedAt ∧ versionOf document = metadata.version ∧
        isTombstone document = metadata.deleted := by
  unfold ofDocument
  obtain ⟨id, updatedAt, version, deleted⟩ := metadata
  by_cases object : document.isObject
  · simp only [object, not_true_eq_false, if_false, true_and, bind_eq_ok, pure_eq_ok, mk.injEq]
    constructor
    · rintro ⟨_, identity, ⟨⟩, valid, moment, updated, rfl, rfl, rfl, rfl⟩
      exact ⟨identity, valid, updated, rfl, rfl⟩
    · rintro ⟨identity, valid, updated, rfl, rfl⟩
      exact ⟨id, identity, (), valid, updatedAt, updated, rfl, rfl, rfl, rfl⟩
  · simp [object]

/-- A document names the entity that its identity field gives as a text or a number, by `idOf`. -/
theorem idOf_eq_ok :
    idOf document = .ok id ↔
      ∃ value, document.field? idField = some value ∧ textOrNumber? value = some id := by
  unfold idOf
  cases found : document.field? idField with
  | none => simp
  | some value => cases value <;> simp [textOrNumber?]

/-- A document carries a moment of change exactly when it has one as a timestamp that can be
read. -/
theorem updatedAtOf_eq_some {moment : Instant} :
    updatedAtOf document = .ok (some moment) ↔
      ∃ text, document.field? updatedAtField = some (.text text) ∧
        Timestamp.read text = .ok moment := by
  unfold updatedAtOf
  cases found : document.field? updatedAtField with
  | none => simp
  | some value =>
    cases value with
    | text text => cases reads : Timestamp.read text <;> simp [reads]
    | null | boolean | number | array | object => simp

/-- An entity that is laid over a copy keeps its identity: `overlay` takes the field from it. -/
theorem idOf_overlay {older : Document} (names : idOf document = .ok id)
    (ascends : document.Ascends) : idOf (older.overlay document) = .ok id := by
  obtain ⟨value, found, text⟩ := idOf_eq_ok.mp names
  exact idOf_eq_ok.mpr ⟨value, Document.field?_overlay_of_some ascends found, text⟩

/-- Another field does not change the identity. -/
theorem idOf_setField {name : String} (other : name ≠ idField) :
    idOf (document.setField name value) = idOf document := by
  unfold idOf
  cases document with
  | object fields => rw [Document.field?_setField rfl, if_neg other]
  | null | boolean | number | text | array => rfl

theorem idOf_setFieldIfAbsent {name : String} (other : name ≠ idField) :
    idOf (document.setFieldIfAbsent name value) = idOf document := by
  unfold Document.setFieldIfAbsent
  split
  · rfl
  · exact idOf_setField other

end EntityMetadata

/-- Whether a document is an entity with an identity. -/
def Document.IsEntity (document : Document) (id : String) : Prop :=
  ∃ metadata, EntityMetadata.ofDocument document = .ok metadata ∧ metadata.id = id

namespace Document.IsEntity

variable {document value : Document} {id : String}

theorem iff_fields :
    document.IsEntity id ↔
      document.isObject ∧ EntityMetadata.idOf document = .ok id ∧ EntityId.validate id = .ok () ∧
        ∃ updatedAt, EntityMetadata.updatedAtOf document = .ok updatedAt := by
  constructor
  · rintro ⟨metadata, usable, rfl⟩
    obtain ⟨object, identity, valid, updated, -, -⟩ := EntityMetadata.ofDocument_eq_ok.mp usable
    exact ⟨object, identity, valid, _, updated⟩
  · rintro ⟨object, identity, valid, updatedAt, updated⟩
    exact ⟨⟨id, updatedAt, EntityMetadata.versionOf document, EntityMetadata.isTombstone document⟩,
      EntityMetadata.ofDocument_eq_ok.mpr ⟨object, identity, valid, updated, rfl, rfl⟩, rfl⟩

theorem isObject (entity : document.IsEntity id) : document.isObject :=
  (iff_fields.mp entity).1

/-- A document is the same entity with another version. -/
theorem setVersion_iff :
    (document.setField EntityMetadata.versionField value).IsEntity id ↔ document.IsEntity id := by
  have updated : EntityMetadata.updatedAtOf (document.setField EntityMetadata.versionField value) =
      EntityMetadata.updatedAtOf document := by
    unfold EntityMetadata.updatedAtOf
    cases document with
    | object fields => rw [field?_setField rfl, if_neg (by decide)]
    | null | boolean | number | text | array => rfl
  rw [iff_fields, iff_fields, isObject_setField, EntityMetadata.idOf_setField (by decide), updated]

theorem setVersion (entity : document.IsEntity id) (value : Document) :
    (document.setField EntityMetadata.versionField value).IsEntity id :=
  setVersion_iff.mpr entity

/-- A document is the same entity with a version where it had none. -/
theorem setVersionIfAbsent_iff :
    (document.setFieldIfAbsent EntityMetadata.versionField value).IsEntity id ↔
      document.IsEntity id := by
  unfold setFieldIfAbsent
  split
  · exact Iff.rfl
  · exact setVersion_iff

/-- An entity that is laid over another document of an entity is the newer one. -/
theorem overlay {older : Document} {other : String} (olderEntity : older.IsEntity other)
    (newer : document.IsEntity id) (ascends : document.Ascends) :
    (older.overlay document).IsEntity id := by
  obtain ⟨olderObject, -, -, olderMoment, olderUpdated⟩ := iff_fields.mp olderEntity
  obtain ⟨object, identity, valid, moment, updated⟩ := iff_fields.mp newer
  refine iff_fields.mpr ⟨?_, EntityMetadata.idOf_overlay identity ascends, valid, ?_⟩
  · obtain ⟨present, rfl⟩ := isObject_iff.mp olderObject
    obtain ⟨incoming, rfl⟩ := isObject_iff.mp object
    rfl
  · unfold EntityMetadata.updatedAtOf at olderUpdated updated ⊢
    rw [field?_overlay object ascends]
    cases given : document.field? EntityMetadata.updatedAtField with
    | none => exact ⟨olderMoment, olderUpdated⟩
    | some value =>
      rw [given] at updated
      exact ⟨moment, updated⟩

/-- The text of a number that is a valid identity is read back as one. -/
theorem validate_reprinted {number : Number} (valid : EntityId.validate number.render = .ok ()) :
    EntityId.validate number.reprinted.render = .ok () := by
  cases number with
  | integer value => exact valid
  | float value => exact (Binary64.positional_of_validate valid).reread.validate

/-- An entity is read back, as `reprinted`, as an entity, though its identity may be another
number. -/
theorem reprinted (entity : document.IsEntity id) : ∃ other, document.reprinted.IsEntity other := by
  obtain ⟨object, identity, valid, updatedAt, updated⟩ := iff_fields.mp entity
  have updated : EntityMetadata.updatedAtOf document.reprinted = .ok updatedAt := by
    unfold EntityMetadata.updatedAtOf at updated ⊢
    rw [field?_reprinted]
    cases found : document.field? EntityMetadata.updatedAtField with
    | none =>
      rw [found] at updated
      exact updated
    | some value =>
      rw [found] at updated
      cases value with
      | null | text => exact updated
      | boolean | number | array | object => cases updated
  have identity : ∃ other, EntityMetadata.idOf document.reprinted = .ok other ∧
      EntityId.validate other = .ok () := by
    unfold EntityMetadata.idOf at identity ⊢
    rw [field?_reprinted]
    cases found : document.field? EntityMetadata.idField with
    | none => simp [found] at identity
    | some value =>
      rw [found] at identity
      cases value with
      | text value =>
        cases identity
        exact ⟨_, rfl, valid⟩
      | number value =>
        cases identity
        exact ⟨_, rfl, validate_reprinted valid⟩
      | null | boolean | array | object => cases identity
  obtain ⟨other, identity, valid⟩ := identity
  exact ⟨other, iff_fields.mpr ⟨by simpa using object, identity, valid, _, updated⟩⟩

end Document.IsEntity

end OfflineSync
