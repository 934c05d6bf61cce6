import OfflineSync.Entity.Metadata
import OfflineSync.Store.Settlement
import OfflineSync.Sync.Error

/-!
# Local edits

An edit is made on an entity given as a document, or as a value of a type that is kept in one table,
`EntityType`. Either way it becomes a `Mutation` that carries the text and the version of the
entity.
-/

namespace OfflineSync

/-- How values of a type are kept in a table. -/
structure EntityType (α : Type) where
  table : String
  id : α → String
  version : α → Option String
  updatedAt : α → Option Instant
  deleted : α → Bool
  encode : α → Document
  decode : Document → Option α

namespace EntityType

/-- The metadata of a value; its identity must be well formed. -/
def metadata {α : Type} (type : EntityType α) (entity : α) :
    Except ValidationError EntityMetadata := do
  EntityId.validate (type.id entity)
  return ⟨type.id entity, type.updatedAt entity, type.version entity, type.deleted entity⟩

end EntityType

/-- An edit on an entity that is given as a document. -/
structure Edit where
  kind : OperationKind
  table : String
  item : Document
  deriving DecidableEq, Repr

namespace Mutation

/-- The mutation of an edit on a document. -/
def ofEdit (edit : Edit) : Except ValidationError Mutation := do
  let metadata ← EntityMetadata.ofDocument edit.item
  return {
    kind := edit.kind
    table := edit.table
    itemId := metadata.id
    item := edit.item.render
    before := none
    entityVersion := metadata.version }

/-- The mutation of an edit on a typed value. -/
def ofTyped {α : Type} (type : EntityType α) (kind : OperationKind) (entity : α)
    (before : Option α) : Except ValidationError Mutation := do
  let metadata ← type.metadata entity
  return {
    kind
    table := type.table
    itemId := metadata.id
    item := (type.encode entity).render
    before := before.map fun entity => (type.encode entity).render
    entityVersion := metadata.version }

end Mutation

namespace Store

/-- Records a mutation, with its faults told to the caller. -/
def record (store : Store) (mutation : Mutation) (now : Instant) :
    Except SyncError (EnqueueOutcome × Store) :=
  (store.recordLocalMutation mutation now).mapError (SyncError.ofEdit mutation)

/-- Records an edit on a document. -/
def edit (store : Store) (edit : Edit) (now : Instant) :
    Except SyncError (EnqueueOutcome × Store) :=
  match Mutation.ofEdit edit with
  | .error fault => .error (.ofValidation fault)
  | .ok mutation => store.record mutation now

/-- Makes edits one after the other; a refused edit changes nothing. -/
def editAll (store : Store) (now : Instant) :
    List Edit → List (Except SyncError EnqueueOutcome) × Store
  | [] => ([], store)
  | next :: rest =>
    match store.edit next now with
    | .error fault =>
      let (outcomes, store) := editAll store now rest
      (.error fault :: outcomes, store)
    | .ok (outcome, store) =>
      let (outcomes, store) := editAll store now rest
      (.ok outcome :: outcomes, store)

end Store

end OfflineSync
