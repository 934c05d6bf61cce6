import OfflineSync.Store.Basic

/-!
# Local copies of entities

The document is the source of truth of a local copy: its identity decides the key it is stored
under, and version and moment of change are read off it, `EntityRow.ofDocument`. Documents are
written by `putEntity`, `addEntity` and `mergeEntity`, which lays a document over the copy it
meets; copies are removed by `removeEntity` and `removeTable`.
-/

namespace OfflineSync

/-- A local copy as it is read. -/
structure StoredEntity where
  table : String
  id : String
  document : Document
  version : Option String
  updatedAt : Option Instant
  deriving DecidableEq, Repr

/-- A row as it is read; its text must be a document. -/
def EntityRow.read (key : EntityKey) (row : EntityRow) : Except StoreError StoredEntity :=
  match Document.read row.text with
  | some document =>
    .ok ⟨key.table, key.id, document, row.version, row.updatedMicros.bind Instant.ofMicros?⟩
  | none => .error .unreadable

/-- The row of a document with given metadata. -/
def EntityRow.ofDocument (document : Document) (metadata : EntityMetadata) : EntityRow :=
  ⟨document.render, metadata.version, metadata.updatedMicros⟩

namespace Store

/-- The metadata of a document, as the store reports its absence. -/
def metadataOf (document : Document) : Except StoreError EntityMetadata :=
  (EntityMetadata.ofDocument document).mapError StoreError.ofValidation

/-- Reads the local copy under a key. -/
def readEntity (store : Store) (key : EntityKey) : Except StoreError (Option StoredEntity) :=
  match store.entity? key with
  | none => .ok none
  | some row => (row.read key).map some

/-- The local copies of a table, by identity. -/
def readTable (store : Store) (table : String) : Except StoreError (List StoredEntity) :=
  (store.entities.filter fun entry => entry.1.table == table).mapM fun entry =>
    entry.2.read entry.1

/-- The number of local copies of a table. -/
def countTable (store : Store) (table : String) : Nat :=
  (store.entities.filter fun entry => entry.1.table == table).length

/-- Writes a document under the identity it carries, over any earlier copy. -/
def putEntity (store : Store) (table : String) (document : Document) : Except StoreError Store := do
  let metadata ← metadataOf document
  return { store with
    entities := KeyedList.insert ⟨table, metadata.id⟩ (.ofDocument document metadata) store.entities }

/-- The columns that keep local copies apart. -/
def entityKeyColumns : String := "entities.table_name, entities.id"

/-- Writes a document under the identity it carries, which must be free. -/
def addEntity (store : Store) (table : String) (document : Document) : Except StoreError Store := do
  let metadata ← metadataOf document
  if (store.entity? ⟨table, metadata.id⟩).isSome then
    throw (.uniqueViolation entityKeyColumns (table ++ "/" ++ metadata.id))
  store.putEntity table document

/-- Lays a remote document over the local copy of its entity, or stores it where
there is none. -/
def mergeEntity (store : Store) (table : String) (remote : Document) : Except StoreError Store := do
  let metadata ← metadataOf remote
  match ← store.readEntity ⟨table, metadata.id⟩ with
  | some present => store.putEntity table (present.document.overlay remote)
  | none => store.putEntity table remote

/-- Sets the version in the document of a local copy, if there is a copy. -/
def setEntityVersion (store : Store) (key : EntityKey) (version : Option String) :
    Except StoreError Store := do
  match ← store.readEntity key with
  | some present =>
    store.putEntity key.table
      (present.document.setField EntityMetadata.versionField (.optionalText version))
  | none => return store

/-- Removes the local copy under a key. -/
def removeEntity (store : Store) (key : EntityKey) : Store :=
  { store with entities := KeyedList.erase key store.entities }

/-- Removes every local copy of a table. -/
def removeTable (store : Store) (table : String) : Store :=
  { store with entities := store.entities.filter fun entry => entry.1.table != table }

/-- A removed copy is gone, and every other copy stays. -/
@[simp] theorem entity?_removeEntity (store : Store) (key other : EntityKey) :
    (store.removeEntity key).entity? other = if key = other then none else store.entity? other :=
  KeyedList.get?_erase key other store.entities

/-- The copies of a removed table are gone, and those of every other table stay. -/
@[simp] theorem entity?_removeTable (store : Store) (table : String) (key : EntityKey) :
    (store.removeTable table).entity? key =
      if key.table = table then none else store.entity? key := by
  have filtered := KeyedList.get?_filter (fun present => present.table != table) key store.entities
  by_cases same : key.table = table <;> simp_all [removeTable, entity?]

end Store

end OfflineSync
