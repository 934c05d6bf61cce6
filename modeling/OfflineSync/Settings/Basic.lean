/-!
# Settings

What a device is configured with, its `Settings`: where the local store lies, how the remote is
reached, and how much is done at a time.
-/

namespace OfflineSync

/-- Where the local store lies, and how many connections it may have. -/
structure StoreSettings where
  databasePath : String
  maxConnections : Nat
  deriving DecidableEq, Repr

/-- How the remote is reached. -/
structure RemoteSettings where
  baseUrl : Option String
  timeoutSeconds : Nat
  deriving DecidableEq, Repr

/-- How operations are pushed. -/
structure PushSettings where
  maxParallelism : Nat
  deriving DecidableEq, Repr

/-- How tables are pulled. -/
structure PullSettings where
  parallelism : Nat
  pageSize : Nat
  writerQueueCapacity : Nat
  deriving DecidableEq, Repr

/-- The settings of a device. -/
structure Settings where
  store : StoreSettings
  remote : RemoteSettings
  push : PushSettings
  pull : PullSettings
  deriving DecidableEq, Repr

namespace Settings

/-- The settings of a device that was not configured; its store lies at a given
place. -/
def default (databasePath : String) : Settings where
  store := ⟨databasePath, 5⟩
  remote := ⟨none, 30⟩
  push := ⟨1⟩
  pull := ⟨1, 50, 64⟩

end Settings

/-- How the local store is opened. -/
structure StoreConnection where
  databasePath : String
  maxConnections : Nat
  minConnections : Nat
  connectSeconds : Nat
  idleSeconds : Option Nat
  runsMigrations : Bool
  deriving DecidableEq, Repr

namespace StoreConnection

/-- The path that stands for a store in memory. -/
def memoryPath : String := ":memory:"

/-- Whether the store is lost when it is closed. -/
def isInMemory (connection : StoreConnection) : Bool :=
  connection.databasePath == memoryPath

end StoreConnection

namespace StoreSettings

/-- How a store with these settings is opened. -/
def connection (settings : StoreSettings) : StoreConnection where
  databasePath := settings.databasePath
  maxConnections := settings.maxConnections
  minConnections := 1
  connectSeconds := 30
  idleSeconds := some 600
  runsMigrations := true

end StoreSettings

end OfflineSync
