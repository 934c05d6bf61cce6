import OfflineSync.Store.Basic

/-!
# The operations queue

Edits enter the queue by merging, `enqueue`; push results leave by identity. A list of tables
restricts a query of the queue, such as `listOpen`, and an empty list restricts nothing.
-/

namespace OfflineSync

/-- What an edit did to the queue. -/
inductive EnqueueOutcome where
  | created (operation : Operation)
  | coalesced (operation : Operation)
  | removed (id : String)
  deriving DecidableEq, Repr

namespace Store

/-- Replaces every operation with an identity by its image. -/
def updateOperation (store : Store) (id : String) (change : Operation → Operation) : Store :=
  { store with
    queue := store.queue.map fun operation => if operation.id == id then change operation else operation }

/-- Removes the operation with an identity. -/
def removeOperation (store : Store) (id : String) : Store :=
  { store with queue := store.queue.filter fun operation => operation.id != id }

/-- Replaces what merging and rebasing may change of an operation. -/
def replaceOperation (store : Store) (operation : Operation) : Store :=
  store.updateOperation operation.id fun present =>
    { present with
      kind := operation.kind
      state := operation.state
      payload := operation.payload
      entityVersion := operation.entityVersion
      revision := operation.revision }

/-- Appends an operation and notes its sequence number as handed out. -/
def appendOperation (store : Store) (operation : Operation) : Store :=
  { store with queue := store.queue ++ [operation], lastSequence := operation.sequence }

/-- Carries out a plan. -/
def carryOut (store : Store) : CoalescePlan → EnqueueOutcome × Store
  | .insert operation => (.created operation, store.appendOperation operation)
  | .update operation => (.coalesced operation, store.replaceOperation operation)
  | .remove id => (.removed id, store.removeOperation id)

/-- Merges an edit into the queue. Only a new operation takes a sequence number. -/
def enqueue (store : Store) (mutation : Mutation) (now : Instant) :
    Except StoreError (EnqueueOutcome × Store) :=
  match coalesce (store.openOperation? mutation.table mutation.itemId) mutation
      (store.lastSequence + 1) now with
  | .ok plan => .ok (store.carryOut plan)
  | .error refusal => .error (.coalesce refusal)

/-- Whether an operation belongs to one of the given tables. -/
def inScope (tables : List String) (operation : Operation) : Bool :=
  tables.isEmpty || tables.contains operation.table

/-- The open operations of some tables, in the order of their creation. -/
def listOpen (store : Store) (tables : List String) : List Operation :=
  store.queue.filter fun operation => operation.isOpen && inScope tables operation

/-- The number of open operations of some tables. -/
def countOpen (store : Store) (tables : List String) : Nat :=
  (store.listOpen tables).length

/-- Those of some tables that have open operations, by name. -/
def tablesWithOpen (store : Store) (tables : List String) : List String :=
  KeyedList.keys (KeyedList.ofList ((store.listOpen tables).map fun operation => (operation.table, ())))

/-- The columns that keep the open operations of entities apart. -/
def openKeyColumns : String := "operations_queue.table_name, operations_queue.item_id"

/-- Whether another open operation of the same entity is queued. -/
def hasOpenRival (store : Store) (operation : Operation) : Bool :=
  store.queue.any fun other =>
    other.id != operation.id && other.isFor operation.table operation.itemId && other.isOpen

/-- Marks the operation that was sent as failed, unless it has changed since. The
answer tells whether it was marked. -/
def recordFailure (store : Store) (sent : Operation) (status : Option Int) (reason : String)
    (now : Instant) : Except StoreError (Bool × Store) :=
  match store.operation? sent.id with
  | none => .ok (false, store)
  | some current =>
    if current.revision ≠ sent.revision then .ok (false, store)
    else if store.hasOpenRival current then
      .error (.ofEngine (.uniqueConstraint openKeyColumns))
    else
      .ok (true, store.updateOperation sent.id fun operation =>
        { operation with
          state := .failed
          lastAttempt := some now
          lastStatus := status
          lastError := some reason })

/-- Marks an operation as settled without removing it. -/
def markCompleted (store : Store) (id : String) (now : Instant) : Store :=
  store.updateOperation id fun operation =>
    { operation with state := .completed, lastAttempt := some now }

/-- Removes every completed operation and counts them. -/
def purgeCompleted (store : Store) : Nat × Store :=
  let remaining := store.queue.filter Operation.isOpen
  (store.queue.length - remaining.length, { store with queue := remaining })

end Store

end OfflineSync
