import OfflineSync.Entity.Validation
import OfflineSync.Settings.Basic
import OfflineSync.Sync.Error
import OfflineSync.Web.Url

/-!
# Valid settings

The rules that settings must satisfy before anything is opened with them. The first rule that is
broken, in the order of `Settings.validate`, is the one reported.
-/

namespace OfflineSync

namespace RemoteSettings

/-- The remote must be reachable over the web, where one is set. -/
def validate (settings : RemoteSettings) : Except SyncError Unit :=
  match settings.baseUrl with
  | none => .ok ()
  | some text =>
    match Url.read text with
    | .error fault => .error (.invalidUrl fault.message)
    | .ok url =>
      if url.scheme = "http" ∨ url.scheme = "https" then .ok ()
      else
        .error (.invalidUrl ("Remote URL must start with http:// or https://, got: " ++ text))

end RemoteSettings

namespace Settings

/-- The number of workers under a name must be one that a run may have. -/
def requireWorkers (name : String) (workers : Nat) : Except SyncError Unit :=
  (Parallelism.validate name workers).mapError fun fault => .invalidConfig fault.message

/-- The number under a name must not be zero. -/
def requirePositive (name : String) (value : Nat) : Except SyncError Unit :=
  if value = 0 then .error (.invalidConfig (name ++ " must be greater than 0")) else .ok ()

/-- Checks every rule, the address of the remote first. -/
def validate (settings : Settings) : Except SyncError Unit := do
  settings.remote.validate
  requireWorkers "push.max_parallelism" settings.push.maxParallelism
  requireWorkers "pull.parallelism" settings.pull.parallelism
  requirePositive "pull.page_size" settings.pull.pageSize
  requirePositive "pull.writer_queue_capacity" settings.pull.writerQueueCapacity
  requirePositive "store.max_connections" settings.store.maxConnections

end Settings

end OfflineSync
