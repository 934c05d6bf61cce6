import OfflineSync.Remote.Address
import OfflineSync.Settings.Validation
import OfflineSync.Sync.Context

/-!
# Opening a context

A context is opened from settings by `Context.ofSettings`: these must be valid, the file of the
store must open, and the remote must be named, in this order.
-/

namespace OfflineSync.Context

/-- A context with no tables and the remote that it talks to, given what came of
opening the file of the store. -/
def ofSettings (settings : Settings) (store : Except StoreError Store) :
    Except SyncError (Context × RemoteBase) := do
  settings.validate
  let store ← store.mapError SyncError.ofStore
  let remote ← RemoteBase.ofSettings settings.remote
  return (⟨.opened store, [], none, QueryDescription.compile, settings⟩, remote)

end OfflineSync.Context
