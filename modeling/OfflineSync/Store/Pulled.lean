import OfflineSync.Store.Entities
import OfflineSync.Store.Queue
import OfflineSync.Store.Watermarks

/-!
# Pulled rows and purged tables

A pulled row changes the local copy of its entity and raises the watermark of its query at once,
`applyRemoteRow`. A page applies its rows in order, `applyPage`, each on its own, so that the rows
before a failing one stay applied. `purgeTable` removes what a table has.
-/

namespace OfflineSync

/-- What a pulled row did to the local copy of its entity. -/
inductive RowOutcome where
  | inserted
  | replaced
  | deleted
  /-- The row is a tombstone of an entity without a local copy. -/
  | skipped
  deriving DecidableEq, Repr

namespace RowOutcome

/-- The name of an outcome. -/
def name : RowOutcome → String
  | .inserted => "Inserted"
  | .replaced => "Replaced"
  | .deleted => "Deleted"
  | .skipped => "Skipped"

end RowOutcome

/-- How many rows of a page had each outcome. -/
structure PageCounts where
  additions : Nat
  replacements : Nat
  deletions : Nat
  skipped : Nat
  deriving DecidableEq, Repr

namespace PageCounts

/-- The counts of an empty page. -/
def none : PageCounts := ⟨0, 0, 0, 0⟩

/-- Counts one more row. -/
def count (counts : PageCounts) : RowOutcome → PageCounts
  | .inserted => { counts with additions := counts.additions + 1 }
  | .replaced => { counts with replacements := counts.replacements + 1 }
  | .deleted => { counts with deletions := counts.deletions + 1 }
  | .skipped => { counts with skipped := counts.skipped + 1 }

/-- The counts of two pages together. -/
def add (left right : PageCounts) : PageCounts where
  additions := left.additions + right.additions
  replacements := left.replacements + right.replacements
  deletions := left.deletions + right.deletions
  skipped := left.skipped + right.skipped

/-- The rows that changed a local copy. -/
def changes (counts : PageCounts) : Nat :=
  counts.additions + counts.replacements + counts.deletions

end PageCounts

/-- What a purge of a table removed. -/
structure PurgeSummary where
  entities : Nat
  operations : Nat
  watermarks : Nat
  deriving DecidableEq, Repr

namespace Store

/-- Raises the watermark by a row's moment of change, if it has one. -/
def noteChange (store : Store) (tokenKey : String) (metadata : EntityMetadata) : Store :=
  match metadata.updatedAt with
  | some instant => (store.advanceWatermark tokenKey instant).2
  | none => store

section NoteChange

variable (store : Store) (tokenKey : String) (metadata : EntityMetadata)

/-- A row's moment of change has no part in the local copies. -/
@[simp] theorem entities_noteChange :
    (store.noteChange tokenKey metadata).entities = store.entities := by
  unfold noteChange
  split <;> simp

@[simp] theorem queue_noteChange : (store.noteChange tokenKey metadata).queue = store.queue := by
  unfold noteChange
  split <;> simp

@[simp] theorem lastSequence_noteChange :
    (store.noteChange tokenKey metadata).lastSequence = store.lastSequence := by
  unfold noteChange
  split <;> simp

@[simp] theorem entity?_noteChange (key : EntityKey) :
    (store.noteChange tokenKey metadata).entity? key = store.entity? key := by
  simp [entity?]

end NoteChange

/-- Applies a pulled row whose metadata is known. A tombstone removes the local
copy; any other row is laid over it, or stored where there is none. -/
def applyKnownRow (store : Store) (table : String) (row : Document) (metadata : EntityMetadata)
    (tokenKey : String) : Except StoreError (RowOutcome × Store) := do
  let key : EntityKey := ⟨table, metadata.id⟩
  let (outcome, applied) ← match metadata.deleted, (← store.readEntity key).isSome with
    | true, true => pure (RowOutcome.deleted, store.removeEntity key)
    | true, false => pure (RowOutcome.skipped, store)
    | false, false => pure (RowOutcome.inserted, ← store.putEntity table row)
    | false, true => pure (RowOutcome.replaced, ← store.mergeEntity table row)
  return (outcome, applied.noteChange tokenKey metadata)

/-- Applies a pulled row. -/
def applyRemoteRow (store : Store) (table : String) (row : Document) (tokenKey : String) :
    Except StoreError (RowOutcome × Store) := do
  store.applyKnownRow table row (← metadataOf row) tokenKey

/-- Applies the rows of a page in order and counts their outcomes; a row without
usable metadata counts as skipped. The store is as the last applied row left it,
also when a row fails. -/
def applyPage (store : Store) (table : String) (tokenKey : String) :
    List Document → Except StoreError PageCounts × Store
  | [] => (.ok .none, store)
  | row :: rows =>
    match EntityMetadata.ofDocument row with
    | .error _ =>
      let (counts, applied) := applyPage store table tokenKey rows
      (counts.map (·.count .skipped), applied)
    | .ok metadata =>
      match store.applyKnownRow table row metadata tokenKey with
      | .error fault => (.error fault, store)
      | .ok (outcome, next) =>
        let (counts, applied) := applyPage next table tokenKey rows
        (counts.map (·.count outcome), applied)

/-- Removes the local copies and the tokens of a table, and with `discard` also
its operations. -/
def purgeTable (store : Store) (table : String) (discard : Bool) : PurgeSummary × Store :=
  let (watermarks, reset) := (store.removeTable table).resetTableWatermarks table
  let remaining := store.queue.filter fun operation => operation.table != table
  let entities := store.countTable table
  if discard then
    (⟨entities, store.queue.length - remaining.length, watermarks⟩, { reset with queue := remaining })
  else (⟨entities, 0, watermarks⟩, reset)

end Store

end OfflineSync
