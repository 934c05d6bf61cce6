import Mathlib.Logic.Function.Basic
import OfflineSync.Proofs.Store.TableShares
import OfflineSync.Proofs.Sync.TableTasks

/-!
# Tables do not meet

Where the remote answers each table by itself, `Remote.ofTables`, the pull of a table depends on
nothing but the share of the table in the store and what the remote has for it, and touches nothing
else: `pullTable_congr` and `agreesOn_workOnTable`. So a table ends as it would if it were pulled
alone, however the tables of a pull go on side by side, and whatever becomes of the others.
-/

namespace OfflineSync

/-- What a remote answers about one table, with whatever state it keeps for it. -/
abbrev TableScript (τ : Type) := Request → τ → Except SyncError Response × τ

/-- A remote that answers each table by a script of its own, while nobody edits or cancels. -/
def Remote.ofTables {τ : Type} (scripts : String → TableScript τ) : Remote (String → τ) :=
  fun request states =>
    let (answer, next) := scripts request.table request (states request.table)
    (⟨[], false, answer⟩, Function.update states request.table next)

namespace Run

variable {τ : Type}

/-- Whether two runs agree on a table: on its share in the store, on what the remote has for
it, and on whether the caller has cancelled. -/
structure AgreesOn (table : String) (left right : Run (String → τ)) : Prop where
  share : Store.SameShare table left.store right.store
  remote : left.remote table = right.remote table
  fired : left.signal.isFired = right.signal.isFired

/-- Whether two outcomes for a table are the same, as far as the table is concerned. -/
structure SameOutcome (table : String) (left right : TablePullResult × Run (String → τ)) :
    Prop where
  result : left.1 = right.1
  agrees : AgreesOn table left.2 right.2

variable {scripts others : String → TableScript τ} {options : PullOptions}
  {run left right : Run (String → τ)} {table other : String} {request : Request}
  {later queries : List PullQuery} {query : PullQuery} {limit : Nat} {page : Page}
  {task : TableTask} {earlier : TablePullResult}
  {outcome outcome' : TablePullResult × Run (String → τ)}

namespace AgreesOn

theorem refl (table : String) (run : Run (String → τ)) : AgreesOn table run run :=
  ⟨.refl table run.store, rfl, rfl⟩

theorem symm (agrees : AgreesOn table left right) : AgreesOn table right left :=
  ⟨agrees.share.symm, agrees.remote.symm, agrees.fired.symm⟩

theorem trans {middle : Run (String → τ)} (first : AgreesOn table left middle)
    (second : AgreesOn table middle right) : AgreesOn table left right :=
  ⟨first.share.trans second.share, first.remote.trans second.remote,
    first.fired.trans second.fired⟩

end AgreesOn

namespace SameOutcome

theorem refl (table : String) (outcome : TablePullResult × Run (String → τ)) :
    SameOutcome table outcome outcome :=
  ⟨rfl, .refl table outcome.2⟩

theorem symm (same : SameOutcome table outcome outcome') : SameOutcome table outcome' outcome :=
  ⟨same.result.symm, same.agrees.symm⟩

theorem trans {middle : TablePullResult × Run (String → τ)}
    (first : SameOutcome table outcome middle) (second : SameOutcome table middle outcome') :
    SameOutcome table outcome outcome' :=
  ⟨first.result.trans second.result, first.agrees.trans second.agrees⟩

/-- What was counted before does not tell outcomes apart (`SameOutcome`). -/
theorem before (same : SameOutcome table outcome outcome') (earlier : TablePullResult) :
    SameOutcome table (earlier.before outcome) (earlier.before outcome') :=
  ⟨congrArg earlier.followedBy same.result, same.agrees⟩

end SameOutcome

/-! ### What a table depends on -/

/-- An exchange about a table depends on that table alone: `send` keeps runs that agree on it so
(`AgreesOn`). -/
theorem send_congr (agrees : AgreesOn table left right) (script : scripts table = others table)
    (own : request.table = table) :
    (left.send (.ofTables scripts) request).1 = (right.send (.ofTables others) request).1 ∧
      AgreesOn table (left.send (.ofTables scripts) request).2
        (right.send (.ofTables others) request).2 := by
  subst own
  have same : scripts request.table request (left.remote request.table) =
      others request.table request (right.remote request.table) := by
    rw [script, agrees.remote]
  refine ⟨?_, agrees.share, ?_, agrees.fired⟩
  · simp only [send, Remote.ofTables, same]
  · simp only [send, Remote.ofTables, Function.update_self, same]

/-- A page of a table depends on that table alone. -/
theorem applyPage_congr (agrees : AgreesOn table left right) (queryId : String)
    (items : List Document) :
    (left.applyPage table (TokenKey.ofQuery table queryId) items).1 =
        (right.applyPage table (TokenKey.ofQuery table queryId) items).1 ∧
      AgreesOn table (left.applyPage table (TokenKey.ofQuery table queryId) items).2
        (right.applyPage table (TokenKey.ofQuery table queryId) items).2 := by
  obtain ⟨counts, share⟩ :=
    Store.applyPage_congr agrees.share (TokenKey.ofQuery table queryId) items
  exact ⟨congrArg (Except.mapError SyncError.ofStore) counts, share, agrees.remote, agrees.fired⟩

theorem takePage_congr (own : query.table = table)
    (pages : ∀ {left right : Run (String → τ)} {request : Request}, AgreesOn table left right →
      request.table = table → SameOutcome table
        (left.pullPages (.ofTables scripts) query.table query.tokenKey limit request)
        (right.pullPages (.ofTables others) query.table query.tokenKey limit request))
    (agrees : AgreesOn table left right) :
    SameOutcome table
      (left.takePage (.ofTables scripts) query.table query.tokenKey limit page)
      (right.takePage (.ofTables others) query.table query.tokenKey limit page) := by
  subst own
  obtain ⟨counted, applied⟩ := applyPage_congr agrees query.queryId page.items
  unfold takePage
  unfold PullQuery.tokenKey at *
  generalize left.applyPage query.table _ page.items = leftApplied at counted applied ⊢
  generalize right.applyPage query.table _ page.items = rightApplied at counted applied ⊢
  obtain ⟨counts, leftNext⟩ := leftApplied
  obtain ⟨_, rightNext⟩ := rightApplied
  cases counted
  cases counts with
  | error fault => exact ⟨rfl, applied⟩
  | ok counts =>
    cases page.nextLink with
    | none => exact ⟨rfl, applied⟩
    | some link => exact (pages applied rfl).before _

/-- The pages of a query depend on its table alone. -/
theorem pullPages_congr (script : scripts table = others table) (own : query.table = table)
    (limit : Nat) (agrees : AgreesOn table left right) (asks : request.table = table) :
    SameOutcome table
      (left.pullPages (.ofTables scripts) query.table query.tokenKey limit request)
      (right.pullPages (.ofTables others) query.table query.tokenKey limit request) := by
  induction limit generalizing left right request with
  | zero => exact ⟨rfl, agrees⟩
  | succ limit inductionHypothesis =>
    obtain ⟨answered, sent⟩ := send_congr agrees script asks
    rw [pullPages_succ, pullPages_succ, answered, agrees.fired]
    split
    · exact ⟨rfl, agrees⟩
    · cases pageOfAnswer query.table (right.send (.ofTables others) request).1 with
      | error fault => exact ⟨rfl, sent⟩
      | ok page => exact takePage_congr own inductionHypothesis sent

/-- A query depends on its table alone. -/
theorem pullQuery_congr (script : scripts table = others table) (own : query.table = table)
    (agrees : AgreesOn table left right) :
    SameOutcome table (left.pullQuery (.ofTables scripts) options query)
      (right.pullQuery (.ofTables others) options query) := by
  have read : left.store.watermarkAt query.tokenKey = right.store.watermarkAt query.tokenKey := by
    subst own
    exact agrees.share.watermarkAt query.queryId
  unfold pullQuery
  rw [read]
  cases right.store.watermarkAt query.tokenKey with
  | error fault => exact ⟨rfl, agrees⟩
  | ok watermark => exact pullPages_congr script own options.pageLimit agrees own

/-- What follows a query depends on the table alone. -/
theorem afterQuery_congr (same : SameOutcome table outcome outcome')
    (tables : ∀ {left right : Run (String → τ)}, AgreesOn table left right →
      SameOutcome table (left.pullTable (.ofTables scripts) options later)
        (right.pullTable (.ofTables others) options later)) :
    SameOutcome table (afterQuery (.ofTables scripts) options later outcome)
      (afterQuery (.ofTables others) options later outcome') := by
  unfold afterQuery
  rw [same.result]
  split
  · exact (tables same.agrees).before outcome'.1
  · exact same

/-- The pull of a table, `pullTable`, depends on that table alone. -/
theorem pullTable_congr (script : scripts table = others table)
    (own : ∀ query ∈ queries, query.table = table) (agrees : AgreesOn table left right) :
    SameOutcome table (left.pullTable (.ofTables scripts) options queries)
      (right.pullTable (.ofTables others) options queries) := by
  induction queries generalizing left right with
  | nil => exact ⟨rfl, agrees⟩
  | cons query later inductionHypothesis =>
    obtain ⟨first, rest⟩ := List.forall_mem_cons.mp own
    rw [pullTable_cons, pullTable_cons]
    exact afterQuery_congr (pullQuery_congr script first agrees) (inductionHypothesis rest)

end Run

/-- Whether what is left to be done is about one table. -/
def TableTask.On (table : String) : TableTask → Prop
  | .waiting queries | .beginning queries _ => ∀ query ∈ queries, query.table = table
  | .asking query later _ request _ =>
    query.table = table ∧ (∀ query ∈ later, query.table = table) ∧ request.table = table
  | .applying query later _ _ _ => query.table = table ∧ ∀ query ∈ later, query.table = table
  | .ended _ => True

/-- What is done next about a table leaves it with the table, and is an exchange about the
table, a page of one of its queries, or nothing that shows. -/
theorem Run.workOnTable_cases {σ : Type} (remote : Remote σ) (options : PullOptions) (run : Run σ)
    {table : String} {task : TableTask} (on : task.On table) :
    (run.workOnTable remote options task).1.On table ∧
      ((run.workOnTable remote options task).2 = run ∨
        (∃ request : Request, request.table = table ∧
          (run.workOnTable remote options task).2 = (run.send remote request).2) ∨
        ∃ queryId items, (run.workOnTable remote options task).2 =
          (run.applyPage table (TokenKey.ofQuery table queryId) items).2) := by
  cases task with
  | waiting queries => exact ⟨on, .inl rfl⟩
  | beginning queries sofar =>
    cases queries with
    | nil => exact ⟨trivial, .inl rfl⟩
    | cons query later =>
      obtain ⟨own, rest⟩ := List.forall_mem_cons.mp on
      rw [workOnTable]
      cases run.store.watermarkAt query.tokenKey with
      | error fault => exact ⟨trivial, .inl rfl⟩
      | ok watermark => exact ⟨⟨own, rest, own⟩, .inl rfl⟩
  | asking query later limit request sofar =>
    obtain ⟨own, rest, asks⟩ := on
    cases limit with
    | zero => exact ⟨trivial, .inl rfl⟩
    | succ limit =>
      rw [workOnTable]
      split
      · exact ⟨trivial, .inl rfl⟩
      · cases pageOfAnswer query.table (run.send remote request).1 with
        | error fault => exact ⟨trivial, .inr (.inl ⟨request, asks, rfl⟩)⟩
        | ok page => exact ⟨⟨own, rest⟩, .inr (.inl ⟨request, asks, rfl⟩)⟩
  | applying query later limit page sofar =>
    obtain ⟨own, rest⟩ := on
    subst own
    have applies : (run.applyPage query.table query.tokenKey page.items).2 =
        (run.applyPage query.table (TokenKey.ofQuery query.table query.queryId) page.items).2 := rfl
    rw [workOnTable]
    generalize run.applyPage query.table query.tokenKey page.items = applied at applies ⊢
    rcases applied with ⟨fault | counts, next⟩
    · exact ⟨trivial, .inr (.inr ⟨query.queryId, page.items, applies⟩)⟩
    · cases page.nextLink with
      | none => exact ⟨rest, .inr (.inr ⟨query.queryId, page.items, applies⟩)⟩
      | some link => exact ⟨⟨rfl, rest, rfl⟩, .inr (.inr ⟨query.queryId, page.items, applies⟩)⟩
  | ended result => exact ⟨trivial, .inl rfl⟩

namespace Run

variable {τ : Type} {scripts others : String → TableScript τ} {options : PullOptions}
  {run left right : Run (String → τ)} {table other : String} {request : Request} {task : TableTask}

/-- What is left to be done about a table depends on that table alone. -/
theorem finishTable_congr (script : scripts table = others table) (on : task.On table)
    (agrees : AgreesOn table left right) :
    SameOutcome table (left.finishTable (.ofTables scripts) options task)
      (right.finishTable (.ofTables others) options task) := by
  cases task with
  | waiting queries => exact pullTable_congr script on agrees
  | beginning queries sofar => exact (pullTable_congr script on agrees).before sofar
  | asking query later limit request sofar =>
    obtain ⟨own, rest, asks⟩ := on
    exact (afterQuery_congr (pullPages_congr script own limit agrees asks)
      (pullTable_congr script rest)).before sofar
  | applying query later limit page sofar =>
    obtain ⟨own, rest⟩ := on
    exact (afterQuery_congr (takePage_congr own (pullPages_congr script own limit) agrees)
      (pullTable_congr script rest)).before sofar
  | ended result => exact ⟨rfl, agrees⟩

/-! ### What a table leaves alone -/

/-- An exchange about one table leaves every other one alone. -/
theorem agreesOn_send (run : Run (String → τ)) (apart : other ≠ request.table) :
    AgreesOn other run (run.send (.ofTables scripts) request).2 :=
  ⟨.refl other run.store, (Function.update_of_ne apart _ _).symm, rfl⟩

/-- A page of one table leaves every other one alone. -/
theorem agreesOn_applyPage (run : Run (String → τ)) (plain : '.' ∉ table.toList)
    (otherPlain : '.' ∉ other.toList) (apart : other ≠ table) (queryId : String)
    (items : List Document) :
    AgreesOn other run (run.applyPage table (TokenKey.ofQuery table queryId) items).2 :=
  ⟨Store.sameShare_applyPage plain otherPlain apart queryId items run.store, rfl, rfl⟩

/-- What is done next about a table, by `workOnTable`, leaves every other one alone. -/
theorem agreesOn_workOnTable (run : Run (String → τ)) (on : task.On table)
    (plain : '.' ∉ table.toList) (otherPlain : '.' ∉ other.toList) (apart : other ≠ table) :
    AgreesOn other run (run.workOnTable (.ofTables scripts) options task).2 := by
  rcases (run.workOnTable_cases (.ofTables scripts) options on).2 with
    same | ⟨request, asks, same⟩ | ⟨queryId, items, same⟩
  · rw [same]
    exact .refl other run
  · rw [same]
    exact run.agreesOn_send (asks ▸ apart)
  · rw [same]
    exact run.agreesOn_applyPage plain otherPlain apart queryId items

/-- Nobody cancels a pull from such a remote. -/
theorem signal_workOnTable (run : Run (String → τ)) (on : task.On table) :
    (run.workOnTable (.ofTables scripts) options task).2.signal = run.signal := by
  rcases (run.workOnTable_cases (.ofTables scripts) options on).2 with
    same | ⟨request, -, same⟩ | ⟨queryId, items, same⟩ <;> rw [same] <;> rfl

end Run

/-! ### The whole pull -/

namespace PullQuery

variable {queries : List PullQuery} {table : String}

theorem mem_tables : table ∈ tables queries ↔ ∃ query ∈ queries, query.table = table := by
  rw [tables, KeyedList.mem_keys_ofList, List.map_map, List.mem_map]
  rfl

/-- The names that pass the check of registration, `validate`, tell tables apart. -/
theorem no_dot_of_valid (valid : ∀ query ∈ queries, TableName.validate query.table = .ok ())
    (listed : table ∈ tables queries) : '.' ∉ table.toList := by
  obtain ⟨query, among, rfl⟩ := mem_tables.mp listed
  exact TableName.no_dot (valid query among)

theorem nodup_tables (queries : List PullQuery) : (tables queries).Nodup :=
  (KeyedList.ascending_ofList _).nodup_keys

end PullQuery

namespace TablePulls

variable {τ : Type} {scripts : String → TableScript τ} {options : PullOptions} {room : Nat}
  {queries : List PullQuery} {start run : Run (String → τ)}
  {pulls next ending : TablePulls (String → τ)} {table : String}

/-- Whether each table of a pull is to end as it does if it is pulled alone. -/
structure Separates (scripts : String → TableScript τ) (options : PullOptions)
    (queries : List PullQuery) (start : Run (String → τ)) (pulls : TablePulls (String → τ)) :
    Prop where
  tables : pulls.tasks.map Prod.fst = PullQuery.tables queries
  fired : pulls.run.signal.isFired = start.signal.isFired
  on : ∀ entry ∈ pulls.tasks, entry.2.On entry.1
  outcome : ∀ entry ∈ pulls.tasks, Run.SameOutcome entry.1
    (pulls.run.finishTable (.ofTables scripts) options entry.2)
    (start.pullTable (.ofTables scripts) options (queries.filter (·.table == entry.1)))

namespace Separates

theorem ofRun (queries : List PullQuery) (start : Run (String → τ)) :
    Separates scripts options queries start (ofRun start queries) where
  tables := by
    simp only [TablePulls.ofRun, waitingFor, List.map_map]
    exact List.map_id _
  fired := rfl
  on entry among := by
    obtain ⟨table, -, rfl⟩ := List.mem_map.mp among
    intro query own
    exact beq_iff_eq.mp (List.mem_filter.mp own).2
  outcome entry among := by
    obtain ⟨table, -, rfl⟩ := List.mem_map.mp among
    exact .refl table _

/-- A step of one table keeps all tables apart. -/
theorem step (separates : Separates scripts options queries start pulls)
    (plain : ∀ table ∈ PullQuery.tables queries, '.' ∉ table.toList)
    (happens : Step (.ofTables scripts) options room pulls next) :
    Separates scripts options queries start next := by
  obtain ⟨tables, fired, on, outcome⟩ := separates
  obtain ⟨before, after, table, task, held, -, rfl⟩ := happens.exists_work
  rw [held] at tables on outcome
  have own : (table, task) ∈ before ++ (table, task) :: after :=
    List.mem_append_right before (List.mem_cons_self ..)
  have others (entry : String × TableTask) (among : entry ∈ before ++ after) :
      entry ∈ before ++ (table, task) :: after :=
    List.perm_middle.symm.subset (List.mem_cons_of_mem _ among)
  have listed (entry : String × TableTask) (among : entry ∈ before ++ (table, task) :: after) :
      entry.1 ∈ PullQuery.tables queries := tables ▸ List.mem_map_of_mem among
  have apart (entry : String × TableTask) (among : entry ∈ before ++ after) : entry.1 ≠ table := by
    have distinct : ((before ++ (table, task) :: after).map Prod.fst).Nodup :=
      tables ▸ PullQuery.nodup_tables queries
    rw [List.map_append, List.map_cons, List.nodup_middle, ← List.map_append] at distinct
    have placed : entry.1 ∈ (before ++ after).map Prod.fst := List.mem_map_of_mem among
    exact fun same => (List.nodup_cons.mp distinct).1 (same ▸ placed)
  -- An entry of the next state is that of the table that goes on, or one of the others.
  have entries {entry : String × TableTask} (among : entry ∈ (withWork before after table
      (pulls.run.workOnTable (.ofTables scripts) options task)).tasks) :
      entry = (table, (pulls.run.workOnTable (.ofTables scripts) options task).1) ∨
        entry ∈ before ++ after := List.mem_cons.mp (List.perm_middle.subset among)
  refine ⟨?_, ?_, fun entry among => ?_, fun entry among => ?_⟩
  · rw [← tables]
    simp [withWork]
  · rw [← fired]
    exact congrArg CancelSignal.isFired (pulls.run.signal_workOnTable (on _ own))
  · rcases entries among with rfl | other
    · exact (pulls.run.workOnTable_cases _ options (on _ own)).1
    · exact on entry (others entry other)
  · rcases entries among with rfl | other
    · have same := outcome _ own
      rw [← pulls.run.finishTable_workOnTable] at same
      exact same
    · have agrees : Run.AgreesOn entry.1 pulls.run
          (pulls.run.workOnTable (.ofTables scripts) options task).2 :=
        pulls.run.agreesOn_workOnTable (on _ own) (plain _ (listed _ own))
          (plain _ (listed _ (others entry other))) (apart entry other)
      exact (Run.finishTable_congr rfl (on entry (others entry other)) agrees).symm.trans
        (outcome entry (others entry other))

end Separates

/-- However the tables of a pull go on, they are kept apart: the pull `Separates` them. -/
theorem separates_of_leads (plain : ∀ table ∈ PullQuery.tables queries, '.' ∉ table.toList)
    (leads : Leads (.ofTables scripts) options room (ofRun run queries) pulls) :
    Separates scripts options queries run pulls := by
  induction leads with
  | refl => exact .ofRun queries run
  | tail earlier last inductionHypothesis => exact inductionHypothesis.step plain last

/-- Each table has one result. -/
theorem keys_results (pulls : TablePulls (String → τ)) :
    KeyedList.keys pulls.results = pulls.tasks.map Prod.fst := by
  rw [KeyedList.keys, results, List.map_map]
  rfl

/-- A table of a pull that has ended has ended as it does if it is pulled alone. -/
theorem outcome_of_ended (plain : ∀ table ∈ PullQuery.tables queries, '.' ∉ table.toList)
    (leads : Leads (.ofTables scripts) options room (ofRun run queries) ending)
    (ended : ending.Ended)
    (listed : table ∈ PullQuery.tables queries) :
    ∃ result, KeyedList.get? table ending.results = some result ∧
      Run.SameOutcome table (result, ending.run)
        (run.pullTable (.ofTables scripts) options (queries.filter (·.table == table))) := by
  have separates := separates_of_leads plain leads
  rw [← separates.tables] at listed
  obtain ⟨⟨_, task⟩, among, rfl⟩ := List.mem_map.mp listed
  have outcome := separates.outcome _ among
  cases task with
  | ended result =>
    refine ⟨result, KeyedList.get?_of_mem ?_ (List.mem_map.mpr ⟨_, among, rfl⟩), outcome⟩
    rw [keys_results, separates.tables]
    exact PullQuery.nodup_tables queries
  | waiting _ | beginning _ _ | asking _ _ _ _ _ | applying _ _ _ _ _ =>
    exact (ended _ among).elim

/-- Two pulls agree on a table that they pull alike, if they agreed on it before: with the
same result, and on what they leave of it. It makes no difference what else they pull, how
many tables at once, what else is in the stores, or what the remotes answer about it. -/
theorem agree_of_pulled_alike {others : String → TableScript τ} {otherRoom : Nat}
    {otherQueries : List PullQuery} {otherRun : Run (String → τ)}
    {otherEnding : TablePulls (String → τ)}
    (valid : ∀ query ∈ queries, TableName.validate query.table = .ok ())
    (otherValid : ∀ query ∈ otherQueries, TableName.validate query.table = .ok ())
    (leads : Leads (.ofTables scripts) options room (ofRun run queries) ending)
    (ended : ending.Ended)
    (otherLeads : Leads (.ofTables others) options otherRoom (ofRun otherRun otherQueries)
      otherEnding)
    (otherEnded : otherEnding.Ended) (listed : table ∈ PullQuery.tables queries)
    (alike : queries.filter (·.table == table) = otherQueries.filter (·.table == table))
    (script : scripts table = others table) (agreed : Run.AgreesOn table run otherRun) :
    KeyedList.get? table ending.results = KeyedList.get? table otherEnding.results ∧
      Run.AgreesOn table ending.run otherEnding.run := by
  have otherListed : table ∈ PullQuery.tables otherQueries := by
    obtain ⟨query, among, rfl⟩ := PullQuery.mem_tables.mp listed
    have shared : query ∈ otherQueries.filter (·.table == query.table) :=
      alike ▸ List.mem_filter.mpr ⟨among, beq_self_eq_true _⟩
    exact PullQuery.mem_tables.mpr ⟨query, (List.mem_filter.mp shared).1, rfl⟩
  obtain ⟨result, found, own⟩ :=
    outcome_of_ended (fun _ => PullQuery.no_dot_of_valid valid) leads ended listed
  obtain ⟨otherResult, otherFound, otherOwn⟩ :=
    outcome_of_ended (fun _ => PullQuery.no_dot_of_valid otherValid) otherLeads otherEnded
      otherListed
  have within (query : PullQuery) (filtered : query ∈ queries.filter (·.table == table)) :
      query.table = table := beq_iff_eq.mp (List.mem_filter.mp filtered).2
  rw [← alike] at otherOwn
  have same := (own.trans (Run.pullTable_congr script within agreed)).trans otherOwn.symm
  rw [found, otherFound]
  exact ⟨congrArg some same.result, same.agrees⟩

end TablePulls

namespace Malformed

/-- A row of the table that is answered well. -/
def row : Document :=
  .object [("id", .text "1"), ("updatedAt", .text "1970-01-01T00:00:01Z")]

/-- A remote that answers one table with a page, and every other one with what is no page. -/
def scripts (table : String) : TableScript Unit := fun _ _ =>
  (.ok ⟨200, none, some (if table = "todo" then .array [row] else .text "busy")⟩, ())

/-- Options that fetch one page of each query. -/
def options : PullOptions := ⟨fun _ => "", 10, 1⟩

/-- A pull of two tables into an empty store. -/
def queries : List PullQuery := [.all "note", .all "todo"]

@[inherit_doc queries]
def run : Run (String → Unit) := ⟨.empty, fun _ => (), .waiting, [], ⟨0, 0⟩⟩

/-- What becomes of the table that is answered well. -/
def pulled : TablePullResult := ⟨⟨1, 0, 0, 0⟩, 1, none⟩

end Malformed

end OfflineSync
