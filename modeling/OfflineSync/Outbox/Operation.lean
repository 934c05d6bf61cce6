import OfflineSync.Calendar.Instant
import OfflineSync.Document.Reader

/-!
# Operations awaiting the remote

A local `Mutation` is one edit the user makes. A queued `Operation` is what the edits of one entity
amount to and what the next push will send for it; `ofMutation` makes it of the first of them.
-/

namespace OfflineSync

/-- What an edit does to an entity. -/
inductive OperationKind where
  | add
  | replace
  | delete
  deriving DecidableEq, Repr, Inhabited

namespace OperationKind

/-- The name of a kind. -/
def name : OperationKind → String
  | .add => "add"
  | .replace => "replace"
  | .delete => "delete"

/-- The kind with a name. -/
def ofName? (name : String) : Option OperationKind :=
  [add, replace, delete].find? (·.name == name)

end OperationKind

/-- Where a queued operation stands. -/
inductive OperationState where
  /-- Not sent since its last change. -/
  | pending
  /-- Settled, and kept only until it is purged. -/
  | completed
  /-- Sent without success. -/
  | failed
  deriving DecidableEq, Repr, Inhabited

namespace OperationState

/-- The name of a state. -/
def name : OperationState → String
  | .pending => "pending"
  | .completed => "completed"
  | .failed => "failed"

/-- The state with a name. -/
def ofName? (name : String) : Option OperationState :=
  [pending, completed, failed].find? (·.name == name)

end OperationState

/-- One edit of one entity. -/
structure Mutation where
  kind : OperationKind
  table : String
  itemId : String
  /-- The text of the entity after the edit, or of the entity that is deleted. -/
  item : String
  /-- The text of the entity before the edit, where it is known. -/
  before : Option String
  /-- The version of the entity that the edit was made on. -/
  entityVersion : Option String
  deriving DecidableEq, Repr

/-- What a push will send for one entity. -/
structure Operation where
  id : String
  kind : OperationKind
  state : OperationState
  table : String
  itemId : String
  /-- The text of the entity before the first edit. -/
  before : Option String
  /-- The text to send; deletions have none. -/
  payload : Option String
  /-- The version that the remote must still hold for the operation to apply. -/
  entityVersion : Option String
  /-- The operation's place in the order of creation. -/
  sequence : Int
  /-- How many edits were merged into the operation since it was created. -/
  revision : Int
  lastAttempt : Option Instant
  lastStatus : Option Int
  lastError : Option String
  createdAt : Instant
  deriving DecidableEq, Repr

namespace Operation

/-- A number in hexadecimal, with zeros in front up to a width. -/
def hexPadded (width value : Nat) : String :=
  let digits := Nat.toDigits 16 value
  String.ofList (List.replicate (width - digits.length) '0' ++ digits)

/-- The values that the last group of an identity can have. -/
def lastGroupSize : Nat := 0x1000000000000

/-- The identity of the operation with a sequence number: the five groups of a
universally unique identifier, with the number in the second and the last. -/
def idOfSequence (sequence : Int) : String :=
  "00000000-" ++ hexPadded 4 (sequence.toNat / lastGroupSize) ++ "-4000-8000-" ++
    hexPadded 12 (sequence.toNat % lastGroupSize)

/-- The value of hexadecimal digits. -/
def hexValueOf? (digits : String) : Option Nat :=
  digits.toList.foldlM (fun value c => (Document.hexValue? c).map (16 * value + ·)) 0

/-- The sequence number that an identity was made from. -/
def sequenceOfId? (id : String) : Option Nat :=
  match id.splitOn "-" with
  | ["00000000", high, "4000", "8000", low] => do
    return (← hexValueOf? high) * lastGroupSize + (← hexValueOf? low)
  | _ => none

/-- The payload of an operation of a kind whose newest edit has a text. -/
def payloadFor (kind : OperationKind) (item : String) : Option String :=
  match kind with
  | .delete => none
  | .add | .replace => some item

/-- The operation of an edit to an entity that has none queued. -/
def ofMutation (mutation : Mutation) (sequence : Int) (now : Instant) : Operation where
  id := idOfSequence sequence
  kind := mutation.kind
  state := .pending
  table := mutation.table
  itemId := mutation.itemId
  before := mutation.before
  payload := payloadFor mutation.kind mutation.item
  entityVersion := mutation.entityVersion
  sequence := sequence
  revision := 0
  lastAttempt := none
  lastStatus := none
  lastError := none
  createdAt := now

/-- Whether an operation still awaits a push. -/
def isOpen (operation : Operation) : Bool :=
  operation.state != .completed

/-- Whether an operation belongs to an entity. -/
def isFor (table itemId : String) (operation : Operation) : Bool :=
  operation.table == table && operation.itemId == itemId

/-- What an operation's payload holds. -/
inductive Payload where
  /-- There is no payload. -/
  | missing
  /-- The payload is not a document. -/
  | unreadable
  | document (value : Document)
  deriving DecidableEq, Repr

/-- Reads the payload of an operation. -/
def readPayload (operation : Operation) : Payload :=
  match operation.payload with
  | none => .missing
  | some text =>
    match Document.read text with
    | some value => .document value
    | none => .unreadable

end Operation

end OfflineSync
