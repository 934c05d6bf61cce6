import OfflineSync.Settings.Validation
import OfflineSync.Toml.Reader

/-!
# Loading settings

Settings come from three places: defaults, a settings file over them, and overrides of the
surroundings over the file, `override`. What `load` gives is valid. A file may leave out any
setting, and what else it holds is ignored; a setting of the wrong type, or a number that its
setting cannot hold, spoils the whole file.
-/

namespace OfflineSync.Settings

open Toml (Fields Value)

/-- The texts that the surroundings set in place of settings. -/
structure Overrides where
  databasePath : Option String
  remoteUrl : Option String
  pushParallelism : Option String
  pullParallelism : Option String
  pageSize : Option String
  deriving DecidableEq, Repr

/-- The numbers of a machine word. -/
def wordLimit : Nat := Nat.pow 2 64

/-- The numbers of half a machine word. -/
def halfWordLimit : Nat := Nat.pow 2 32

/-- The number that decimal digits denote, below a limit; a plus sign may stand
in front. -/
def readCount? (limit : Nat) (text : String) : Option Nat :=
  let digits := match text.toList with
    | '+' :: rest => rest
    | chars => chars
  let value := Nat.ofDigitChars 10 digits 0
  if digits.isEmpty ∨ ¬ digits.all Char.isDigit ∨ limit ≤ value then none else some value

/-- Settings with overrides in place. Numbers that cannot be read are ignored. -/
def override (overrides : Overrides) (settings : Settings) : Settings where
  store := { settings.store with
    databasePath := overrides.databasePath.getD settings.store.databasePath }
  remote := { settings.remote with baseUrl := overrides.remoteUrl.or settings.remote.baseUrl }
  push :=
    ⟨(overrides.pushParallelism.bind (readCount? wordLimit)).getD settings.push.maxParallelism⟩
  pull := { settings.pull with
    parallelism :=
      (overrides.pullParallelism.bind (readCount? wordLimit)).getD settings.pull.parallelism
    pageSize := (overrides.pageSize.bind (readCount? halfWordLimit)).getD settings.pull.pageSize }

/-- A text among the values of a file. -/
def textOf? : Value → Option String
  | .text value => some value
  | _ => none

/-- A number below a limit among the values of a file. -/
def countOf? (limit : Nat) : Value → Option Nat
  | .integer value => if 0 ≤ value ∧ value < limit then some value.toNat else none
  | _ => none

/-- The settings of one part of a file: under their names, or in the order of the
part's settings. -/
inductive Part where
  | named (fields : Fields)
  | ordered (items : List Value)

/-- The part of a file under a name. A part that is left out sets nothing, and so
does a time in place of a part. -/
def part? (file : Fields) (name : String) : Option Part :=
  match KeyedList.get? name file with
  | none | some .time => some (.named [])
  | some (.table _ fields) => some (.named fields)
  | some (.array items) => some (.ordered items)
  | some (.tables items) => some (.ordered (items.map fun fields => .table .header fields))
  | some _ => none

/-- The value of a setting, by its name and its position in its part. -/
def Part.value? (part : Part) (name : String) (position : Nat) : Option Value :=
  match part with
  | .named fields => KeyedList.get? name fields
  | .ordered items => items[position]?

/-- A setting of a part, or a default where the part leaves it out. -/
def Part.setting? {α : Type} (part : Part) (name : String) (position : Nat) (default : α)
    (read : Value → Option α) : Option α :=
  match part.value? name position with
  | none => some default
  | some value => read value

/-- The settings that a file's table holds, over others. -/
def ofFields? (default : Settings) (file : Fields) : Option Settings := do
  let store ← part? file "store"
  let databasePath ← store.setting? "database_path" 0 default.store.databasePath textOf?
  let maxConnections ← store.setting? "max_connections" 1 default.store.maxConnections
    (countOf? halfWordLimit)
  let remote ← part? file "remote"
  let baseUrl ← remote.setting? "base_url" 0 default.remote.baseUrl fun v => (textOf? v).map some
  let timeoutSeconds ← remote.setting? "timeout_secs" 1 default.remote.timeoutSeconds
    (countOf? wordLimit)
  let push ← part? file "push"
  let maxParallelism ← push.setting? "max_parallelism" 0 default.push.maxParallelism
    (countOf? wordLimit)
  let pull ← part? file "pull"
  let parallelism ← pull.setting? "parallelism" 0 default.pull.parallelism (countOf? wordLimit)
  let pageSize ← pull.setting? "page_size" 1 default.pull.pageSize (countOf? halfWordLimit)
  let writerQueueCapacity ← pull.setting? "writer_queue_capacity" 2
    default.pull.writerQueueCapacity (countOf? wordLimit)
  return ⟨⟨databasePath, maxConnections⟩, ⟨baseUrl, timeoutSeconds⟩, ⟨maxParallelism⟩,
    ⟨parallelism, pageSize, writerQueueCapacity⟩⟩

/-- The settings that the text of a file holds, over others, by `ofFields?`. -/
def ofText (default : Settings) (text : String) : Except SyncError Settings :=
  match (Toml.read text).bind (ofFields? default) with
  | some settings => .ok settings
  | none => .error (.configLoad "the file does not hold settings")

/-- The settings that the bytes of a file hold, over others. -/
def ofBytes (default : Settings) (bytes : ByteArray) : Except SyncError Settings :=
  match String.fromUTF8? bytes with
  | some text => ofText default text
  | none => .error (.configLoad "stream did not contain valid UTF-8")

/-- Valid settings from defaults, from a file if there is one (`ofBytes`), and from overrides. -/
def load (default : Settings) (file : Option ByteArray) (overrides : Overrides) :
    Except SyncError Settings := do
  let settings ← match file with
    | some bytes => ofBytes default bytes
    | none => .ok default
  let settings := settings.override overrides
  settings.validate
  return settings

/-- As `load`, but the defaults where that fails. -/
def loadOrDefault (default : Settings) (file : Option ByteArray) (overrides : Overrides) :
    Settings :=
  match load default file overrides with
  | .ok settings => settings
  | .error _ => default

end OfflineSync.Settings
