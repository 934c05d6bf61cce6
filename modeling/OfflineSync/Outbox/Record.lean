import OfflineSync.Calendar.LooseTimestamp
import OfflineSync.Outbox.Operation

/-!
# Operations as documents

The document of an operation, `toDocument`, names each of its fields. Reading one, `ofDocument?`,
accepts any further fields, and an absent optional field counts as null. A record may also be the
plain list of all fields, in the order of `fieldNames`.
-/

namespace OfflineSync.Operation

/-- A moment as it stands in a record. -/
def instantDocument (instant : Instant) : Document :=
  .text (Timestamp.renderExact instant)

/-- The record of an operation. -/
def toDocument (operation : Operation) : Document :=
  .ofFields [
    ("id", .text operation.id),
    ("kind", .text operation.kind.name),
    ("state", .text operation.state.name),
    ("table_name", .text operation.table),
    ("item_id", .text operation.itemId),
    ("original_payload", .optionalText operation.before),
    ("payload", .optionalText operation.payload),
    ("entity_version", .optionalText operation.entityVersion),
    ("sequence", .integer operation.sequence),
    ("attempt_version", .integer operation.revision),
    ("last_attempt", (operation.lastAttempt.map instantDocument).getD .null),
    ("last_status_code", (operation.lastStatus.map Document.integer).getD .null),
    ("last_error", .optionalText operation.lastError),
    ("created_at", instantDocument operation.createdAt)]

/-- An integer that fits a signed 64-bit word. -/
def wordOf? : Document → Option Int
  | .number (.integer value) => if value < Int.pow 2 63 then some value else none
  | _ => none

/-- A moment that a record holds. -/
def instantOf? (document : Document) : Option Instant :=
  document.text?.bind LooseTimestamp.read

/-- The name of a choice that a record holds: a text, or the only field of an
object, which holds nothing. -/
def choiceOf? : Document → Option String
  | .text name => some name
  | .object [(name, .null)] => some name
  | _ => none

/-- The names of the fields, in the order in which they are written. -/
def fieldNames : List String :=
  ["id", "kind", "state", "table_name", "item_id", "original_payload", "payload",
    "entity_version", "sequence", "attempt_version", "last_attempt", "last_status_code",
    "last_error", "created_at"]

/-- A record with its fields named. A list of fields must be complete. -/
def named? : Document → Option Document
  | .array items =>
    if items.length = fieldNames.length then some (.ofFields (fieldNames.zip items)) else none
  | record => some record

/-- A field that must be present and readable. -/
def required {α : Type} (record : Document) (name : String) (read : Document → Option α) :
    Option α :=
  (record.field? name).bind read

/-- A field that may be absent or null, and otherwise must be readable. -/
def optional {α : Type} (record : Document) (name : String) (read : Document → Option α) :
    Option (Option α) :=
  match record.field? name with
  | none | some .null => some none
  | some value => (read value).map some

/-- The operation that a record describes. -/
def ofDocument? (document : Document) : Option Operation := do
  let record ← named? document
  return {
    id := ← required record "id" Document.text?
    kind := ← required record "kind" fun kind => (choiceOf? kind).bind OperationKind.ofName?
    state := ← required record "state" fun state => (choiceOf? state).bind OperationState.ofName?
    table := ← required record "table_name" Document.text?
    itemId := ← required record "item_id" Document.text?
    before := ← optional record "original_payload" Document.text?
    payload := ← optional record "payload" Document.text?
    entityVersion := ← optional record "entity_version" Document.text?
    sequence := ← required record "sequence" wordOf?
    revision := ← required record "attempt_version" wordOf?
    lastAttempt := ← optional record "last_attempt" instantOf?
    lastStatus := ← optional record "last_status_code" wordOf?
    lastError := ← optional record "last_error" Document.text?
    createdAt := ← required record "created_at" instantOf? }

end OfflineSync.Operation
