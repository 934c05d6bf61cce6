import OfflineSync.Outbox.Error

/-!
# Faults of the local store

A store refuses a call for a reason that a `StoreError` tells. A refused call changes nothing.
-/

namespace OfflineSync

/-- What the engine below the store reports. -/
inductive EngineFault where
  | rowNotFound
  | poolTimedOut
  | poolClosed
  /-- A constraint that two rows would break, by the columns it covers. -/
  | uniqueConstraint (columns : String)
  | unexpectedData (detail : String)
  deriving DecidableEq, Repr

/-- Why the store refuses a call. -/
inductive StoreError where
  | notFound (entity id : String)
  | uniqueViolation (field value : String)
  | coalesce (refusal : CoalesceError)
  | invalidEntity (reason : String)
  | serialization (reason : String)
  | connectionFailed (reason : String)
  | migrationFailed (reason : String)
  | queryFailed (reason : String)
  | transactionFailed (reason : String)
  | poolExhausted
  | internal (reason : String)
  deriving DecidableEq, Repr

namespace StoreError

/-- The text of an error. -/
def message : StoreError → String
  | .notFound entity id => entity ++ " not found: " ++ id
  | .uniqueViolation field value => "Duplicate " ++ field ++ ": '" ++ value ++ "' already exists"
  | .coalesce refusal => "Queue conflict: " ++ refusal.message
  | .invalidEntity reason => "Invalid entity: " ++ reason
  | .serialization reason => "Serialization failed: " ++ reason
  | .connectionFailed reason => "Connection failed: " ++ reason
  | .migrationFailed reason => "Migration failed: " ++ reason
  | .queryFailed reason => "Query failed: " ++ reason
  | .transactionFailed reason => "Transaction failed: " ++ reason
  | .poolExhausted => "Connection pool exhausted"
  | .internal reason => "Internal database error: " ++ reason

/-- Whether an error is a refused merge. -/
def isCoalesce : StoreError → Bool
  | .coalesce _ => true
  | _ => false

/-- An engine's report as a fault of the store. -/
def ofEngine : EngineFault → StoreError
  | .rowNotFound => .notFound "Record" "unknown"
  | .poolTimedOut => .poolExhausted
  | .poolClosed => .connectionFailed "Pool is closed"
  | .uniqueConstraint columns => .uniqueViolation columns "unknown"
  | .unexpectedData detail => .internal ("encountered unexpected or invalid data: " ++ detail)

/-- A violated rule makes a document no entity. -/
def ofValidation (fault : ValidationError) : StoreError :=
  .invalidEntity fault.message

/-- A text that is not a document cannot be stored. -/
def unreadable : StoreError :=
  .serialization notADocument

end StoreError

end OfflineSync
