import OfflineSync.Remote.Message
import OfflineSync.Settings.Basic
import OfflineSync.Sync.Error
import OfflineSync.Web.Url

/-!
# Addresses of the remote

Every table and entity has its address under the base address of the remote, a `RemoteBase`;
`RemoteBase.urlFor` is the address that a request is sent to. A link that the remote gave is
followed as it is.
-/

namespace OfflineSync

/-- A remote, by the base of its addresses. -/
structure RemoteBase where
  url : Url
  deriving DecidableEq, Repr

namespace RemoteBase

/-- The segment that all tables are found under. -/
def tablesSegment : String := "tables"

/-- The remote with a base address; a path must be able to follow the address. -/
def ofText (text : String) : Except SyncError RemoteBase :=
  match Url.read text with
  | .error fault => .error (.invalidUrl fault.message)
  | .ok url =>
    if url.isOpaque then .error (.invalidUrl (url.render ++ " cannot be used as a base URL"))
    else .ok ⟨url⟩

/-- The remote that settings name. -/
def ofSettings (settings : RemoteSettings) : Except SyncError RemoteBase :=
  match settings.baseUrl with
  | none => .error (.invalidConfig "remote.base_url is not set")
  | some text => ofText text

/-- The address of a table, or of one of its entities. -/
def tableUrl (base : RemoteBase) (table : String) (itemId : Option String) : Url :=
  (tablesSegment :: table :: itemId.toList).foldl Url.pushSegment base.url.popEmptySegment

/-- The address that a request is sent to. -/
def urlFor (base : RemoteBase) (request : Request) : Except SyncError Url :=
  match request.link? with
  | some link => (Url.read link).mapError fun fault => .invalidUrl fault.message
  | none =>
    let query := request.query?.filter fun text => !text.isEmpty
    .ok ((base.tableUrl request.table request.itemId?).withQuery query)

end RemoteBase

end OfflineSync
