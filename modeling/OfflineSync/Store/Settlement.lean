import OfflineSync.Store.Entities
import OfflineSync.Store.Queue

/-!
# Edits and push results

Each function here changes a local copy together with the operation that is queued for it. An edit
is written and queued at once, `recordLocalMutation`. A push result settles the operation that was
sent, `completePush` and `settleWithServer`; where further edits were merged in meanwhile, the
operation stays and is rebased onto what the remote now holds, `Operation.rebase`.
-/

namespace OfflineSync

/-- How a push result landed on the queue. -/
inductive Settlement where
  /-- The operation sent is settled. -/
  | settled
  /-- The operation carries newer edits and stays queued. -/
  | rebased
  /-- The operation is no longer queued. -/
  | vanished
  deriving DecidableEq, Repr

/-- The kind that an operation must have once an earlier revision of it has
succeeded. An entity that the remote now holds is not created again, and one
that it removed is not replaced. -/
def rebasedKind (sent current : OperationKind) : OperationKind :=
  match sent, current with
  | .add, .add | .replace, .add => .replace
  | .delete, .replace => .add
  | _, kind => kind

namespace Operation

/-- An operation rebased onto the version that the remote gave its entity. -/
def rebase (operation : Operation) (sent : OperationKind) (version : Option String) : Operation :=
  let kind := rebasedKind sent operation.kind
  { operation with
    kind
    entityVersion := if kind = .add then none else version.or operation.entityVersion }

end Operation

namespace Store

/-- Writes an edit to the local copy of its entity. -/
def applyEdit (store : Store) (mutation : Mutation) : Except StoreError Store :=
  match mutation.kind with
  | .delete => .ok (store.removeEntity ⟨mutation.table, mutation.itemId⟩)
  | kind =>
    match Document.read mutation.item with
    | none => .error .unreadable
    | some document =>
      if kind = .add then store.addEntity mutation.table document
      else store.putEntity mutation.table document

/-- Queues an edit and writes it to the local copy. -/
def recordLocalMutation (store : Store) (mutation : Mutation) (now : Instant) :
    Except StoreError (EnqueueOutcome × Store) := do
  let (outcome, queued) ← store.enqueue mutation now
  return (outcome, ← queued.applyEdit mutation)

/-- Rebases a queued operation, and with it the version of the local copy unless
the operation removes the entity. -/
def rebase (store : Store) (operation : Operation) (sent : OperationKind)
    (version : Option String) : Except StoreError Store :=
  let rebased := operation.rebase sent version
  let replaced := store.replaceOperation rebased
  if rebased.kind = .delete then .ok replaced
  else replaced.setEntityVersion ⟨rebased.table, rebased.itemId⟩ rebased.entityVersion

/-- The version that a successful answer gives: that of its body, else that of
its header. -/
def answeredVersion (body : Option Document) (headerVersion : Option String) : Option String :=
  ((body.bind fun document => (EntityMetadata.ofDocument document).toOption).bind
    EntityMetadata.version).or headerVersion

/-- The edit that removes an entity which the remote has created although it was
deleted locally while its creation was in flight. -/
def followUpDelete (sent : Operation) (version : Option String) : Mutation where
  kind := .delete
  table := sent.table
  itemId := sent.itemId
  item := sent.payload.getD "\x7b\x7d"
  before := none
  entityVersion := version

/-- Writes what a successful answer says of the entity to its local copy. -/
def adoptAnswer (store : Store) (sent : Operation) (body : Option Document)
    (version : Option String) : Except StoreError Store :=
  match sent.kind, body.bind Document.fields?, version with
  | .delete, _, _ => .ok (store.removeEntity ⟨sent.table, sent.itemId⟩)
  | _, some fields, none => store.mergeEntity sent.table (.object fields)
  | _, some fields, some version =>
    store.mergeEntity sent.table
      ((Document.object fields).setFieldIfAbsent EntityMetadata.versionField (.text version))
  | _, none, some version => store.setEntityVersion ⟨sent.table, sent.itemId⟩ (some version)
  | _, none, none => .ok store

/-- Settles an operation that the remote has carried out. -/
def completePush (store : Store) (sent : Operation) (body : Option Document)
    (headerVersion : Option String) (now : Instant) : Except StoreError (Settlement × Store) :=
  let version := answeredVersion body headerVersion
  match store.operation? sent.id with
  | some current =>
    if current.revision ≠ sent.revision then do
      return (.rebased, ← store.rebase current sent.kind version)
    else do
      let adopted ← store.adoptAnswer sent body version
      return (.settled, adopted.removeOperation sent.id)
  | none =>
    if sent.kind ≠ .add then .ok (.vanished, store)
    else
      -- The creation was cancelled locally while it was in flight.
      match store.openOperation? sent.table sent.itemId with
      | some recreated => do
        return (.rebased, ← store.rebase recreated sent.kind version)
      | none => do
        let (_, queued) ← store.enqueue (followUpDelete sent version) now
        return (.rebased, queued)

/-- The entity that a conflict answer describes, which must be the one sent. -/
def conflictingEntity (sent : Operation) (body : Option Document) :
    Except StoreError (Document × EntityMetadata) :=
  match body with
  | none => .error (.invalidEntity "conflict response carried no server entity")
  | some document =>
    match EntityMetadata.ofDocument document with
    | .error fault =>
      .error (.invalidEntity ("conflict response is not an entity: " ++ fault.message))
    | .ok metadata =>
      if metadata.id = sent.itemId then .ok (document, metadata)
      else
        .error (.invalidEntity
          ("conflict response describes " ++ metadata.id ++ ", not " ++ sent.itemId))

/-- Resolves a conflict in favour of the remote: the local copy becomes the
remote entity, and the operation is completed without being sent again. -/
def settleWithServer (store : Store) (sent : Operation) (body : Option Document) (now : Instant) :
    Except StoreError (Settlement × Store) := do
  let (document, metadata) ← conflictingEntity sent body
  match store.operation? sent.id with
  | none => return (.vanished, store)
  | some current =>
    if current.revision ≠ sent.revision then
      let version := if metadata.deleted then none else metadata.version
      return (.rebased, ← store.rebase current sent.kind version)
    let adopted ←
      if metadata.deleted then pure (store.removeEntity ⟨sent.table, sent.itemId⟩)
      else store.mergeEntity sent.table document
    return (.settled, adopted.markCompleted sent.id now)

end Store

end OfflineSync
