import OfflineSync.Store.Error

/-!
# Faults of synchronization

What a caller of the synchronization layer can be told, a `SyncError`. Faults of the store are
passed on by `ofStore` under the name that tells the caller what to do about them.
-/

namespace OfflineSync

/-- Why a call of the synchronization layer failed. -/
inductive SyncError where
  | invalidEntity (reason : String)
  | queueConflict (table itemId : String) (refusal : CoalesceError)
  | pendingOperations (tables : List String)
  | unknownTable (table : String)
  | transport (reason : String)
  | malformedResponse (reason : String)
  | database (reason : String)
  | serialization (reason : String)
  | invalidConfig (reason : String)
  | invalidUrl (reason : String)
  | configLoad (reason : String)
  | configSave (reason : String)
  | cancelled
  | channel (reason : String)
  | internal (reason : String)
  deriving DecidableEq, Repr

namespace SyncError

/-- The text of an error. -/
def message : SyncError → String
  | .invalidEntity reason => "Invalid entity: " ++ reason
  | .queueConflict table itemId refusal =>
    "Queue conflict for " ++ table ++ "/" ++ itemId ++ ": " ++ refusal.message
  | .pendingOperations tables => "Pending operations for tables: " ++ ", ".intercalate tables
  | .unknownTable table => "Table not registered: " ++ table
  | .transport reason => "Transport error: " ++ reason
  | .malformedResponse reason => "Malformed response: " ++ reason
  | .database reason => "Database error: " ++ reason
  | .serialization reason => "Serialization failed: " ++ reason
  | .invalidConfig reason => "Invalid sync configuration: " ++ reason
  | .invalidUrl reason => "Invalid remote URL: " ++ reason
  | .configLoad reason => "Failed to load config: " ++ reason
  | .configSave reason => "Failed to save config: " ++ reason
  | .cancelled => "Operation cancelled"
  | .channel reason => "Channel error: " ++ reason
  | .internal reason => "Internal error: " ++ reason

/-- Whether the same call may succeed later. -/
def isRetryable : SyncError → Bool
  | .transport _ | .pendingOperations _ => true
  | _ => false

/-- Whether the configuration is at fault. -/
def isConfigError : SyncError → Bool
  | .invalidConfig _ | .invalidUrl _ | .configLoad _ | .configSave _ => true
  | _ => false

/-- Whether the edit is at fault. -/
def isSequencingError : SyncError → Bool
  | .invalidEntity _ | .queueConflict .. => true
  | _ => false

/-- The kinds of a refused merge: the one queued and the one refused. -/
def conflictingKinds : SyncError → Option (OperationKind × OperationKind)
  | .queueConflict _ _ refusal => some refusal.kinds
  | _ => none

/-- A fault of the store as the caller is told of it. -/
def ofStore : StoreError → SyncError
  | .invalidEntity reason => .invalidEntity reason
  | .serialization reason => .serialization reason
  | .uniqueViolation _ value => .invalidEntity (value ++ " already exists locally")
  | .coalesce refusal => .queueConflict "" "" refusal
  | other => .database other.message

/-- A fault of the store on an edit; a refused merge names the entity. -/
def ofEdit (mutation : Mutation) : StoreError → SyncError
  | .coalesce refusal => .queueConflict mutation.table mutation.itemId refusal
  | other => ofStore other

/-- A violated rule makes a document no entity. -/
def ofValidation (fault : ValidationError) : SyncError :=
  .invalidEntity fault.message

/-- A text that is not a document cannot be used. -/
def unreadable : SyncError :=
  .serialization notADocument

end SyncError

end OfflineSync
