import OfflineSync.Outbox.Operation

/-!
# Conflict policies

What to do when the remote holds another version of an entity than the one an operation was made
on. A `ConflictPolicy` may look at the `Conflict` or decide all alike, and comes to a `Resolution`.
-/

namespace OfflineSync

/-- How a conflict is resolved. -/
inductive Resolution where
  /-- The operation is sent again, whatever the remote holds. -/
  | keepLocal
  /-- The remote's entity replaces the local copy. -/
  | acceptRemote
  /-- The operation fails. -/
  | fail
  deriving DecidableEq, Repr

/-- A conflict: the operation sent, and the remote's answer to it. -/
structure Conflict where
  operation : Operation
  status : Nat
  serverItem : Option Document
  deriving DecidableEq, Repr

/-- How conflicts are resolved. -/
inductive ConflictPolicy where
  | clientWins
  | serverWins
  | custom (resolver : Conflict → Resolution)

namespace ConflictPolicy

/-- The resolution of a conflict. -/
def resolve : ConflictPolicy → Conflict → Resolution
  | .clientWins, _ => .keepLocal
  | .serverWins, _ => .acceptRemote
  | .custom resolver, conflict => resolver conflict

/-- The name of a policy. -/
def name : ConflictPolicy → String
  | .clientWins => "ClientWins"
  | .serverWins => "ServerWins"
  | .custom _ => "Custom(..)"

end ConflictPolicy

end OfflineSync
