import OfflineSync.Remote.Query
import OfflineSync.Store.Pulled
import OfflineSync.Sync.Exchange

/-!
# Pulling tables

A pull fetches the rows of a query that changed since the query's watermark, page by page, and
applies each page before it asks for the next, `Run.pullPages`. The tables of a call are pulled on
their own, `Run.pullTable`: what stops one leaves the others as they are.
-/

namespace OfflineSync

/-- A query whose rows are kept in the local store. -/
structure PullQuery where
  table : String
  /-- Names the query among those of its table; its watermark is kept under it. -/
  queryId : String
  filters : List String
  order : List OrderTerm
  pageSize : Option Nat
  deriving DecidableEq, Repr

namespace PullQuery

/-- The query for all rows of a table. -/
def all (table : String) : PullQuery := ⟨table, "all", [], [], none⟩

/-- The key of the query's watermark. -/
def tokenKey (query : PullQuery) : String :=
  TokenKey.ofQuery query.table query.queryId

/-- What the remote is asked: the rows since the watermark, oldest change first. -/
def describe (query : PullQuery) (watermark : Option Instant) (defaultPageSize : Nat) :
    QueryDescription where
  table := query.table
  filters := query.filters ++ (watermark.map updatedSince).toList
  order := ⟨EntityMetadata.updatedAtField, .ascending⟩ :: query.order
  skip := none
  top := some (query.pageSize.getD defaultPageSize)
  includeDeleted := true

end PullQuery

/-- What the pull of one table did. Results of its pages add up by `followedBy`. -/
structure TablePullResult where
  counts : PageCounts
  pages : Nat
  /-- What stopped the pull early. -/
  error : Option SyncError
  deriving DecidableEq, Repr

namespace TablePullResult

/-- The result of a pull that was stopped before its first page, or asked for
none. -/
def stopped (error : Option SyncError) : TablePullResult := ⟨.none, 0, error⟩

/-- The result of one applied page. -/
def onePage (counts : PageCounts) : TablePullResult := ⟨counts, 1, none⟩

/-- Two results of the same table, one after the other. -/
def followedBy (earlier later : TablePullResult) : TablePullResult :=
  ⟨earlier.counts.add later.counts, earlier.pages + later.pages, later.error⟩

/-- Whether nothing stopped the pull. -/
def isSuccessful (result : TablePullResult) : Bool :=
  result.error.isNone

end TablePullResult

/-- What a pull did, by table. -/
abbrev PullResult := KeyedList String TablePullResult

namespace PullResult

/-- Whether nothing stopped any table. -/
def isSuccessful (result : PullResult) : Bool :=
  result.all fun entry => entry.2.isSuccessful

/-- The rows that changed a local copy, over all tables. -/
def totalChanges (result : PullResult) : Nat :=
  result.foldl (fun total entry => total + entry.2.counts.changes) 0

end PullResult

/-- How queries become the text of a request, and the page size of a query that
names none. -/
structure PullOptions where
  compile : QueryDescription → String
  defaultPageSize : Nat
  /-- The most pages that are fetched for one query. -/
  pageLimit : Nat

/-- The page in an answer. -/
def pageOfAnswer (table : String) : Except SyncError Response → Except SyncError Page
  | .error fault => .error fault
  | .ok response =>
    if response.isSuccess then
      (Page.ofBody response.body).mapError fun fault => .malformedResponse fault.message
    else
      .error (.transport ("HTTP " ++ toString response.status ++ " fetching " ++ table))

namespace Run

variable {σ : Type}

/-- Applies a page to the store. -/
def applyPage (run : Run σ) (table tokenKey : String) (items : List Document) :
    Except SyncError PageCounts × Run σ :=
  let (counts, store) := run.store.applyPage table tokenKey items
  (counts.mapError SyncError.ofStore, { run with store })

/-- Fetches pages, starting with a given request, and applies each. -/
def pullPages (remote : Remote σ) (table tokenKey : String) :
    Nat → Request → Run σ → TablePullResult × Run σ
  | 0, _, run => (.stopped (some (.internal "page limit reached")), run)
  | limit + 1, request, run =>
    if run.signal.isFired then (.stopped (some .cancelled), run)
    else
      let (answer, run) := run.send remote request
      match pageOfAnswer table answer with
      | .error fault => (.stopped (some fault), run)
      | .ok page =>
        match run.applyPage table tokenKey page.items with
        | (.error fault, run) => (.stopped (some fault), run)
        | (.ok counts, run) =>
          match page.nextLink with
          | none => (.onePage counts, run)
          | some link =>
            let (rest, run) := pullPages remote table tokenKey limit (.nextPage table link) run
            ((TablePullResult.onePage counts).followedBy rest, run)

/-- Pulls one query from its watermark on, by `pullPages`. -/
def pullQuery (remote : Remote σ) (options : PullOptions) (run : Run σ) (query : PullQuery) :
    TablePullResult × Run σ :=
  match run.store.watermarkAt query.tokenKey with
  | .error fault => (.stopped (some (.ofStore fault)), run)
  | .ok watermark =>
    let text := options.compile (query.describe watermark options.defaultPageSize)
    run.pullPages remote query.table query.tokenKey options.pageLimit (.query query.table text)

/-- Pulls the queries of one table in order, by `pullQuery`, until one is stopped. -/
def pullTable (remote : Remote σ) (options : PullOptions) :
    List PullQuery → Run σ → TablePullResult × Run σ
  | [], run => (.stopped none, run)
  | query :: rest, run =>
    let (result, run) := run.pullQuery remote options query
    if result.isSuccessful then
      let (later, run) := pullTable remote options rest run
      (result.followedBy later, run)
    else (result, run)

/-- Pulls tables one after the other, by `pullTable`, each with those of the queries that are on
it. -/
def pullTables (remote : Remote σ) (options : PullOptions) (queries : List PullQuery) :
    List String → Run σ → PullResult × Run σ
  | [], run => ([], run)
  | table :: rest, run =>
    let (result, run) := run.pullTable remote options (queries.filter (·.table == table))
    let (others, run) := pullTables remote options queries rest run
    ((table, result) :: others, run)

/-- Pulls queries. Nothing is fetched while a table that is asked for has open
operations, because a pulled row could overwrite an edit that was not sent. -/
def pull (remote : Remote σ) (options : PullOptions) (queries : List PullQuery) (run : Run σ) :
    Except SyncError PullResult × Run σ :=
  let tables := KeyedList.keys (KeyedList.ofList (queries.map fun query => (query.table, ())))
  if tables.isEmpty then (.ok [], run)
  else
    let dirty := run.store.tablesWithOpen tables
    if ¬ dirty.isEmpty then (.error (.pendingOperations dirty), run)
    else
      let (result, run) := run.pullTables remote options queries tables
      if run.signal.isFired then (.error .cancelled, run) else (.ok result, run)

end Run

end OfflineSync
