import OfflineSync.Settings.Basic
import OfflineSync.Toml.Quoted

/-!
# Saving settings

Settings are saved by `render` as a settings file with one section for each part, and with a line
for each setting. A remote that is not set has no line.
-/

namespace OfflineSync.Settings

/-- The line of a setting that is a text. -/
def textLine (name value : String) : String :=
  name ++ " = " ++ String.ofList (Toml.Quoted.encode value.toList) ++ "\n"

/-- The line of a setting that is a number. -/
def countLine (name : String) (value : Nat) : String :=
  name ++ " = " ++ toString value ++ "\n"

/-- A section with its lines. -/
def sectionText (name : String) (lines : List String) : String :=
  "[" ++ name ++ "]\n" ++ String.join lines

/-- The text of the file that holds settings. -/
def render (settings : Settings) : String :=
  "\n".intercalate [
    sectionText "store" [textLine "database_path" settings.store.databasePath,
      countLine "max_connections" settings.store.maxConnections],
    sectionText "remote" ((settings.remote.baseUrl.map (textLine "base_url")).toList ++
      [countLine "timeout_secs" settings.remote.timeoutSeconds]),
    sectionText "push" [countLine "max_parallelism" settings.push.maxParallelism],
    sectionText "pull" [countLine "parallelism" settings.pull.parallelism,
      countLine "page_size" settings.pull.pageSize,
      countLine "writer_queue_capacity" settings.pull.writerQueueCapacity]]

end OfflineSync.Settings
