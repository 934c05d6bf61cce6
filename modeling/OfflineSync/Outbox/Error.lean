import OfflineSync.Entity.Validation
import OfflineSync.Outbox.Coalescing

/-!
# Faults of a single operation

The reasons why an operation cannot be formed, merged or sent, each an `OperationError`, before
any store or remote is involved.
-/

namespace OfflineSync

/-- Why an operation is unusable. -/
inductive OperationError where
  /-- The payload is not a document. -/
  | invalidPayload (detail : String)
  /-- The edit cannot follow those already queued. -/
  | coalesce (refusal : CoalesceError)
  /-- A name or limit is violated. -/
  | validation (fault : ValidationError)
  deriving DecidableEq, Repr

/-- What is said of a text that is not a document. -/
def notADocument : String := "the text is not a JSON document"

namespace OperationError

/-- The text of an error. -/
def message : OperationError → String
  | .invalidPayload detail => "Invalid payload: " ++ detail
  | .coalesce refusal => refusal.message
  | .validation fault => "Validation error: " ++ fault.message

end OperationError

/-- The document that an operation's payload holds, if it has a payload. -/
def Operation.payloadDocument (operation : Operation) : Except OperationError (Option Document) :=
  match operation.readPayload with
  | .missing => .ok none
  | .unreadable => .error (.invalidPayload notADocument)
  | .document value => .ok (some value)

end OfflineSync
