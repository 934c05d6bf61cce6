import OfflineSync.Outbox.Operation

/-!
# Merging edits into one operation

An entity has at most one open operation. A further edit is merged into it by `coalesce`, so that
sending the result has the effect of sending every edit in turn: as `coalesceKinds` decides, a
created entity stays a creation however often it is changed, and a creation that is deleted again
leaves nothing to send. A `CoalescePlan` tells what that makes of the queue.
-/

namespace OfflineSync

/-- Why an edit cannot follow the edits already queued. -/
inductive CoalesceError where
  | duplicateCreate
  | createAfterUpdate
  | updateAfterDelete
  | duplicateDelete
  deriving DecidableEq, Repr

namespace CoalesceError

/-- The text of an error. -/
def message : CoalesceError → String
  | .duplicateCreate => "entity is already queued for creation"
  | .createAfterUpdate => "cannot create an entity that has a pending update"
  | .updateAfterDelete => "cannot update an entity that has a pending delete"
  | .duplicateDelete => "entity is already queued for deletion"

/-- The kind that was queued and the kind that was refused. -/
def kinds : CoalesceError → OperationKind × OperationKind
  | .duplicateCreate => (.add, .add)
  | .createAfterUpdate => (.replace, .add)
  | .updateAfterDelete => (.delete, .replace)
  | .duplicateDelete => (.delete, .delete)

end CoalesceError

/-- What an edit does to the queue, by kinds alone. -/
inductive KindTransition where
  | create (kind : OperationKind)
  | update (kind : OperationKind)
  | remove
  deriving DecidableEq, Repr

/-- The transition that an incoming kind causes on the kind that is queued. -/
def coalesceKinds : Option OperationKind → OperationKind → Except CoalesceError KindTransition
  | none, incoming => .ok (.create incoming)
  | some .add, .add => .error .duplicateCreate
  | some .add, .replace => .ok (.update .add)
  | some .add, .delete => .ok .remove
  | some .replace, .add => .error .createAfterUpdate
  | some .replace, .replace => .ok (.update .replace)
  | some .replace, .delete => .ok (.update .delete)
  | some .delete, .add => .ok (.update .replace)
  | some .delete, .replace => .error .updateAfterDelete
  | some .delete, .delete => .error .duplicateDelete

/-- What an edit does to the queue. -/
inductive CoalescePlan where
  | insert (operation : Operation)
  | update (operation : Operation)
  | remove (id : String)
  deriving DecidableEq, Repr

namespace Operation

/-- An operation with a further edit merged in. The newest text is sent, under
the oldest version known, and the operation counts as not sent yet. -/
def merge (operation : Operation) (kind : OperationKind) (mutation : Mutation) : Operation :=
  { operation with
    kind
    payload := payloadFor kind mutation.item
    entityVersion := operation.entityVersion.or mutation.entityVersion
    revision := operation.revision + 1
    state := .pending }

end Operation

/-- The plan for an edit, given the operation that is queued for its entity. A
new operation takes the next sequence number. -/
def coalesce (existing : Option Operation) (mutation : Mutation) (nextSequence : Int)
    (now : Instant) : Except CoalesceError CoalescePlan :=
  match coalesceKinds (existing.map Operation.kind) mutation.kind, existing with
  | .error refusal, _ => .error refusal
  | .ok .remove, some operation => .ok (.remove operation.id)
  | .ok (.update kind), some operation => .ok (.update (operation.merge kind mutation))
  | .ok _, _ => .ok (.insert (Operation.ofMutation mutation nextSequence now))

end OfflineSync
