import OfflineSync.Calendar.Timestamp
import OfflineSync.Document.Printer
import OfflineSync.Entity.Validation

/-!
# What the store knows of an entity

Every entity document carries its identity in the field `id` and may carry a version, the moment
of its last change and a tombstone mark. The `EntityMetadata` of a document, found by `ofDocument`,
is all that synchronization reads from it.
-/

namespace OfflineSync

/-- The fields of an entity that synchronization looks at. -/
structure EntityMetadata where
  id : String
  updatedAt : Option Instant
  version : Option String
  deleted : Bool
  deriving DecidableEq, Repr

namespace EntityMetadata

/-- The field that holds an entity's identity. -/
def idField : String := "id"

/-- The field that holds the moment of an entity's last change. -/
def updatedAtField : String := "updatedAt"

/-- The field that holds the version the remote gave an entity. -/
def versionField : String := "version"

/-- The field that marks an entity as a tombstone. -/
def deletedField : String := "deleted"

/-- A field that may be a text or a number is read as text. -/
def textOrNumber? : Document → Option String
  | .text value => some value
  | .number value => some value.render
  | _ => none

/-- The version that a document carries: a text or a number. -/
def versionOf (document : Document) : Option String :=
  (document.field? versionField).bind textOrNumber?

/-- Whether a document is marked as a tombstone. -/
def isTombstone (document : Document) : Bool :=
  document.field? deletedField == some (.boolean true)

/-- The identity that a document carries, before its form is checked. -/
def idOf (document : Document) : Except ValidationError String :=
  match document.field? idField with
  | none | some .null => .error (.required idField)
  | some value =>
    match textOrNumber? value with
    | some id => .ok id
    | none => .error (.invalidFormat idField "must be a string")

/-- The moment of last change that a document carries. -/
def updatedAtOf (document : Document) : Except ValidationError (Option Instant) :=
  match document.field? updatedAtField with
  | none | some .null => .ok none
  | some (.text value) =>
    match Timestamp.read value with
    | .ok instant => .ok (some instant)
    | .error fault => .error (.invalidFormat updatedAtField fault.message)
  | some _ => .error (.invalidFormat updatedAtField "must be an RFC 3339 string")

/-- The metadata of a document, or the first reason why it cannot be an entity. -/
def ofDocument (document : Document) : Except ValidationError EntityMetadata :=
  if ¬ document.isObject then .error (.invalidFormat "entity" "must be a JSON object")
  else do
    let id ← idOf document
    EntityId.validate id
    let updatedAt ← updatedAtOf document
    return ⟨id, updatedAt, versionOf document, isTombstone document⟩

/-- The stored form of the moment of last change. -/
def updatedMicros (metadata : EntityMetadata) : Option Int :=
  metadata.updatedAt.map Instant.toMicros

end EntityMetadata

end OfflineSync
