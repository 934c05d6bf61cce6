import OfflineSync.Entity.Metadata
import OfflineSync.Store.Error

/-!
# The local store

A `Store` is one value: the local copy of each entity, the queued operations in the order of their
creation, the pull watermarks and the counter of sequence numbers. A call on a store gives the next
store or an error, and with an error there is no next store, so every call takes effect as a whole
or not at all. What a store holds is read by `entity?`, `openOperation?` and `watermark?`.
-/

namespace OfflineSync

/-- The table and the identity that an entity is stored under. -/
structure EntityKey where
  table : String
  id : String
  deriving DecidableEq, Repr

/-- Keys are ordered by table, and by identity within a table. -/
instance : Ord EntityKey where
  compare left right := (compare left.table right.table).then (compare left.id right.id)

/-- The local copy of an entity: the text of its document, and columns that were
extracted from the document when it was written. A text that came there by other
ways need not be a document. -/
structure EntityRow where
  text : String
  version : Option String
  updatedMicros : Option Int
  deriving DecidableEq, Repr

/-- The local store. -/
structure Store where
  /-- The local copies, by table and identity. -/
  entities : KeyedList EntityKey EntityRow
  /-- The queued operations, completed ones included, in the order of creation. -/
  queue : List Operation
  /-- The pull watermarks in microseconds, by token key. -/
  watermarks : KeyedList String Int
  /-- The sequence number that was handed out last. -/
  lastSequence : Int
  deriving DecidableEq, Repr

namespace Store

/-- The store before anything was written. -/
def empty : Store := ⟨[], [], [], 0⟩

/-- The local copy under a key. -/
def entity? (store : Store) (key : EntityKey) : Option EntityRow :=
  KeyedList.get? key store.entities

/-- The operation with an identity. -/
def operation? (store : Store) (id : String) : Option Operation :=
  store.queue.find? (·.id == id)

/-- The open operation of an entity. -/
def openOperation? (store : Store) (table itemId : String) : Option Operation :=
  store.queue.find? fun operation => operation.isFor table itemId && operation.isOpen

/-- The watermark under a token key. -/
def watermark? (store : Store) (tokenKey : String) : Option Int :=
  KeyedList.get? tokenKey store.watermarks

end Store

end OfflineSync
