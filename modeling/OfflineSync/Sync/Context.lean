import OfflineSync.Settings.Basic
import OfflineSync.Store.Database
import OfflineSync.Sync.Pull
import OfflineSync.Sync.Push

/-!
# The synchronization context

A `Context` joins a local store, the tables registered for synchronization and the settings, and
offers every call of the library on them. Tables must be registered before they are edited, pushed,
pulled or purged, as `ensureRegistered` checks.
-/

namespace OfflineSync

/-- How a table is synchronized. -/
structure TableOptions where
  policy : Option ConflictPolicy
  pageSize : Option Nat

/-- A store with all that its synchronization needs, except for the remote. -/
structure Context where
  database : Database
  tables : KeyedList String TableOptions
  /-- The policy of the tables that have none of their own. -/
  policy : Option ConflictPolicy
  compile : QueryDescription → String
  settings : Settings

/-- A finished push or pull. -/
structure Report (σ α : Type) where
  answer : Except SyncError α
  exchanges : List Exchange
  remote : σ
  context : Context

namespace Context

variable {σ : Type}

/-- Registers a table, over any earlier registration of it. -/
def register (context : Context) (table : String) (options : TableOptions) :
    Except SyncError Context :=
  match TableName.validate table with
  | .error fault => .error (.invalidConfig fault.message)
  | .ok _ => .ok { context with tables := KeyedList.insert table options context.tables }

/-- The registered tables, by name. -/
def registeredTables (context : Context) : List String :=
  KeyedList.keys context.tables

/-- Whether a table is registered. -/
def isRegistered (context : Context) (table : String) : Bool :=
  KeyedList.contains table context.tables

/-- Fails unless a table is registered. -/
def ensureRegistered (context : Context) (table : String) : Except SyncError Unit :=
  if context.isRegistered table then .ok () else .error (.unknownTable table)

/-- The tables that a call is about: those named, which must be registered, or
all registered ones where none is named. -/
def scope (context : Context) (tables : List String) : Except SyncError (List String) :=
  if tables.isEmpty then .ok context.registeredTables
  else do
    tables.forM context.ensureRegistered
    return tables

/-- Looks something up in the store. -/
def look {α : Type} (context : Context) (read : Store → Except StoreError α) :
    Except SyncError α :=
  (context.database.query read).mapError SyncError.ofStore

/-- Changes the store, and tells the caller of faults in a given way. -/
def change {α : Type} (context : Context) (tell : StoreError → SyncError)
    (act : Store → Except StoreError (α × Store)) : Except SyncError α × Context :=
  let (answer, database) := context.database.transact act
  (answer.mapError tell, { context with database })

/-- Records a mutation. -/
def record (context : Context) (mutation : Mutation) (now : Instant) :
    Except SyncError EnqueueOutcome × Context :=
  context.change (SyncError.ofEdit mutation) fun store => store.recordLocalMutation mutation now

/-- Records the mutation of an edit, unless the edit is on no entity. -/
def recordIfValid (context : Context) (mutation : Except ValidationError Mutation)
    (now : Instant) : Except SyncError EnqueueOutcome × Context :=
  match mutation with
  | .error fault => (.error (.ofValidation fault), context)
  | .ok mutation => context.record mutation now

/-- Records an edit on a document, of whatever table. -/
def edit (context : Context) (edit : Edit) (now : Instant) :
    Except SyncError EnqueueOutcome × Context :=
  context.recordIfValid (Mutation.ofEdit edit) now

/-- Records an edit on a typed value, given the value before it. -/
def editTyped {α : Type} (context : Context) (type : EntityType α) (kind : OperationKind)
    (entity : α) (before : Option α) (now : Instant) : Except SyncError EnqueueOutcome × Context :=
  context.recordIfValid (Mutation.ofTyped type kind entity before) now

/-- A stored entity as a typed value. -/
def decode {α : Type} (type : EntityType α) (stored : StoredEntity) : Except SyncError α :=
  match type.decode stored.document with
  | some entity => .ok entity
  | none => .error .unreadable

/-- The typed value with an identity. -/
def getItem {α : Type} (context : Context) (type : EntityType α) (id : String) :
    Except SyncError (Option α) := do
  match ← context.look fun store => store.readEntity ⟨type.table, id⟩ with
  | none => return none
  | some stored => return some (← decode type stored)

/-- The typed values of a table, by identity. -/
def listItems {α : Type} (context : Context) (type : EntityType α) : Except SyncError (List α) := do
  (← context.look fun store => store.readTable type.table).mapM (decode type)

/-- The value before an edit: none before a creation, else the local copy. -/
def valueBefore {α : Type} (context : Context) (type : EntityType α) (kind : OperationKind)
    (entity : α) : Except SyncError (Option α) := do
  context.ensureRegistered type.table
  match kind with
  | .add => return none
  | .replace | .delete => context.getItem type (type.id entity)

/-- Records an edit on a typed value of a registered table. -/
def enqueue {α : Type} (context : Context) (type : EntityType α) (kind : OperationKind)
    (entity : α) (now : Instant) : Except SyncError EnqueueOutcome × Context :=
  match context.valueBefore type kind entity with
  | .error fault => (.error fault, context)
  | .ok before => context.editTyped type kind entity before now

/-- The open operations of some tables, in the order of their creation. -/
def pending (context : Context) (tables : List String) : Except SyncError (List Operation) := do
  let scope ← context.scope tables
  context.look fun store => .ok (store.listOpen scope)

/-- The number of open operations of some tables. -/
def pendingCount (context : Context) (tables : List String) : Except SyncError Nat := do
  let scope ← context.scope tables
  context.look fun store => .ok (store.countOpen scope)

/-- Fails unless a call may have a number of workers. -/
def checkWorkers (name : String) (workers : Nat) : Except SyncError Unit :=
  if Parallelism.allowed workers then .ok ()
  else
    .error (.invalidConfig
      (name ++ " must be between 1 and " ++ toString Parallelism.most ++ ", got " ++ toString workers))

/-- The policy for a table: its own, or that of the context. -/
def policyFor (context : Context) : PolicyChoice := fun table =>
  ((KeyedList.get? table context.tables).bind TableOptions.policy).or context.policy

/-- The report of a call that ended before it reached the remote. -/
def unsent {α : Type} (context : Context) (remote : σ) (answer : Except SyncError α) : Report σ α :=
  ⟨answer, [], remote, context⟩

/-- Carries out a call on the open store. -/
def carryOut {α : Type} (context : Context) (remote : σ) (signal : CancelSignal) (now : Instant)
    (call : Run σ → Except SyncError α × Run σ) : Report σ α :=
  match context.database with
  | .closed => context.unsent remote (.error (.ofStore (.ofEngine .poolClosed)))
  | .opened store =>
    let (answer, run) := call ⟨store, remote, signal, [], now⟩
    ⟨answer, run.exchanges, run.remote, { context with database := .opened run.store }⟩

/-- Pushes the open operations of some tables. -/
def push (context : Context) (remote : Remote σ) (state : σ) (tables : List String)
    (workers : Nat) (signal : CancelSignal) (now : Instant) : Report σ PushResult :=
  match context.scope tables with
  | .error fault => context.unsent state (.error fault)
  | .ok [] => context.unsent state (.ok .empty)
  | .ok scope =>
    match checkWorkers "max_parallelism" workers with
    | .error fault => context.unsent state (.error fault)
    | .ok _ =>
      context.carryOut state signal now fun run => run.push remote context.policyFor workers scope

/-- Pushes the open operations of every registered table, by `push`. -/
def pushAll (context : Context) (remote : Remote σ) (state : σ) (now : Instant) :
    Report σ PushResult :=
  context.push remote state [] context.settings.push.maxParallelism .never now

/-- A query with the page size of its table, where it names none itself. -/
def complete (context : Context) (query : PullQuery) : Except SyncError PullQuery :=
  match KeyedList.get? query.table context.tables with
  | none => .error (.unknownTable query.table)
  | some options => .ok { query with pageSize := query.pageSize.or options.pageSize }

/-- Pulls queries on registered tables, each made whole by `complete`. -/
def pull (context : Context) (remote : Remote σ) (state : σ) (queries : List PullQuery)
    (workers pageLimit : Nat) (signal : CancelSignal) (now : Instant) : Report σ PullResult :=
  match queries.mapM context.complete with
  | .error fault => context.unsent state (.error fault)
  | .ok queries =>
    match checkWorkers "parallelism" workers with
    | .error fault => context.unsent state (.error fault)
    | .ok _ =>
      if queries.isEmpty then context.unsent state (.ok [])
      else
        let options : PullOptions := ⟨context.compile, context.settings.pull.pageSize, pageLimit⟩
        context.carryOut state signal now fun run => run.pull remote options queries

/-- Pulls every registered table, by `pull`. -/
def pullAll (context : Context) (remote : Remote σ) (state : σ) (pageLimit : Nat) (now : Instant) :
    Report σ PullResult :=
  context.pull remote state (context.registeredTables.map PullQuery.all)
    context.settings.pull.parallelism pageLimit .never now

/-- Removes the local copies of a table. Unless its open operations are to be
discarded, there must be none. The answer is the number of copies removed. -/
def purge (context : Context) (table : String) (discard : Bool) : Except SyncError Nat × Context :=
  let blocked : Except SyncError Unit := do
    context.ensureRegistered table
    if ¬ discard then
      let waiting ← context.look fun store => .ok (store.countOpen [table])
      if 0 < waiting then throw (.pendingOperations [table])
  match blocked with
  | .error fault => (.error fault, context)
  | .ok _ =>
    context.change .ofStore fun store =>
      let (summary, next) := store.purgeTable table discard
      .ok (summary.entities, next)

/-- Removes every completed operation and counts them. -/
def purgeCompleted (context : Context) : Except SyncError Nat × Context :=
  context.change .ofStore fun store => .ok store.purgeCompleted

/-- Forgets how far the pulls of a query have come. -/
def resetDeltaToken (context : Context) (table queryId : String) : Except SyncError Bool × Context :=
  context.change .ofStore fun store => .ok (store.resetWatermark (TokenKey.ofQuery table queryId))

end Context

end OfflineSync
