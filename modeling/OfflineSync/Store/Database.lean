import OfflineSync.Store.Pulled
import OfflineSync.Store.Settlement

/-!
# Open and closed stores

A `Database` is a store that calls can still reach, or a closed one that refuses every call. A
refused call leaves the database as it was, as `transact` does.
-/

namespace OfflineSync

/-- A local store that may have been closed. -/
inductive Database where
  | opened (store : Store)
  | closed
  deriving DecidableEq, Repr

namespace Database

/-- Looks something up in an open store. -/
def query {α : Type} (database : Database) (read : Store → Except StoreError α) :
    Except StoreError α :=
  match database with
  | .opened store => read store
  | .closed => .error (.ofEngine .poolClosed)

/-- Changes an open store. -/
def transact {α : Type} (database : Database) (change : Store → Except StoreError (α × Store)) :
    Except StoreError α × Database :=
  match database with
  | .closed => (.error (.ofEngine .poolClosed), .closed)
  | .opened store =>
    match change store with
    | .ok (answer, next) => (.ok answer, .opened next)
    | .error fault => (.error fault, .opened store)

/-- Whether the store can be reached. -/
def isHealthy : Database → Bool
  | .opened _ => true
  | .closed => false

/-- What the schema migrations report where no store can be reached. -/
def closedMigration : String :=
  "while executing migrations: attempted to acquire a connection on a closed pool"

/-- How many schema migrations there are, and how many of them were applied. An
open store has its whole schema, and a closed one cannot be migrated. -/
def migrationStatus : Database → Except StoreError (Nat × Nat)
  | .opened _ => .ok (1, 1)
  | .closed => .error (.migrationFailed closedMigration)

/-- Resolves a conflict in favour of the remote. The answer is checked before the
store is reached. -/
def settleWithServer (database : Database) (sent : Operation) (body : Option Document)
    (now : Instant) : Except StoreError Settlement × Database :=
  match Store.conflictingEntity sent body with
  | .error fault => (.error fault, database)
  | .ok _ => database.transact fun store => store.settleWithServer sent body now

/-- Applies a pulled row. The row is checked before the store is reached. -/
def applyRemoteRow (database : Database) (table : String) (row : Document) (tokenKey : String) :
    Except StoreError RowOutcome × Database :=
  match Store.metadataOf row with
  | .error fault => (.error fault, database)
  | .ok _ => database.transact fun store => store.applyRemoteRow table row tokenKey

/-- Applies the rows of a page. Rows without usable metadata are skipped without
reaching the store. -/
def applyPage (database : Database) (table tokenKey : String) (rows : List Document) :
    Except StoreError PageCounts × Database :=
  match database with
  | .opened store =>
    let (counts, next) := store.applyPage table tokenKey rows
    (counts, .opened next)
  | .closed =>
    if rows.any fun row => (Store.metadataOf row).isOk then (.error (.ofEngine .poolClosed), .closed)
    else (.ok { PageCounts.none with skipped := rows.length }, .closed)

end Database

end OfflineSync
