/-!
# The synchronization lock

At most one push, pull or purge runs at a time, the one that holds the `SyncLock`. Local edits do
not take the lock.
-/

namespace OfflineSync

/-- A named lock, held or free. -/
structure SyncLock where
  name : String
  held : Bool
  deriving DecidableEq, Repr

namespace SyncLock

/-- A lock that nobody holds. -/
def free (name : String) : SyncLock := ⟨name, false⟩

/-- Takes the lock if it is free. The answer tells whether it was. -/
def tryAcquire (lock : SyncLock) : Bool × SyncLock :=
  (!lock.held, { lock with held := true })

/-- Gives the lock back. The answer tells whether it was held. -/
def release (lock : SyncLock) : Bool × SyncLock :=
  (lock.held, { lock with held := false })

end SyncLock

end OfflineSync
