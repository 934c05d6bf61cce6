import OfflineSync.Proofs.KeyedList
import OfflineSync.Proofs.Store.Conclusions
import OfflineSync.Proofs.Sync.Workers
import OfflineSync.Sync.Context

/-!
# What a push accounts for

A push takes up the open operations of some tables, and each of them ends as settled or as
failed (`PushResult.Ended`). The workers may write the conclusions in any order, since each
touches one operation alone: `Accounts` holds after every `Crew.Step`. Where nobody edits
meanwhile, the operations that a push counts and those it reports as failed are together
those that were open, and the failed ones are those that are open afterwards. `Context.push`
is one of the ways in which such a push goes on (`Context.PushEnds`).
-/

namespace OfflineSync

/-- The open operations of some tables; without a table there are none. -/
def Store.openIn (store : Store) (tables : List String) : List Operation :=
  store.queue.filter fun operation => operation.isOpen && tables.contains operation.table

namespace PushResult

/-- Whether an operation is reported as failed. -/
def Reports (result : PushResult) (id : String) : Prop :=
  (KeyedList.get? id result.failures).isSome

/-- How an operation has ended: it is not reported (`Reports`) and open no longer, or it is reported
and open as it was (`Retains`). -/
inductive Ended (store : Store) (result : PushResult) (operation : Operation) : Prop where
  | settled (unreported : ¬ result.Reports operation.id)
      (closed : ∀ row ∈ store.queue, row.id = operation.id →
        Operation.SameRow operation row ∧ ¬ row.isOpen) :
      Ended store result operation
  | failed {row : Operation} (reported : result.Reports operation.id) (queued : row ∈ store.queue)
      (isOpen : row.isOpen) (retains : row.Retains operation) : Ended store result operation

variable {store next : Store} {result : PushResult} {sent operation : Operation}
  {failure : Option PushFailure} {id : String}

/-- Noting by `note` how an operation ended reports it where it failed, and no other. -/
theorem reports_note : (result.note sent failure).Reports id ↔
    result.Reports id ∨ failure.isSome ∧ sent.id = id := by
  cases failure with
  | none => simp [note, Reports]
  | some failure =>
    by_cases same : sent.id = id <;> simp [note, Reports, KeyedList.get?_insert, same]

/-- Noting how an operation ended counts it once, if it was not reported before. -/
theorem counted_note (unreported : ¬ result.Reports sent.id) :
    (result.note sent failure).completed + (result.note sent failure).failures.length =
      result.completed + result.failures.length + 1 := by
  cases failure with
  | none =>
    simp only [note]
    omega
  | some failure =>
    have fresh : KeyedList.get? sent.id result.failures = none := by
      simpa [Reports] using unreported
    simp only [note, KeyedList.length_insert failure fresh]
    omega

/-- How an operation has `Ended` is not changed by the conclusion of another one. -/
theorem Ended.note (ended : Ended store result operation)
    (others : Store.SameOthers sent.id store next) (other : operation.id ≠ sent.id) :
    Ended next (result.note sent failure) operation := by
  have reports : (result.note sent failure).Reports operation.id ↔ result.Reports operation.id := by
    rw [reports_note]
    exact or_iff_left fun noted => other noted.2.symm
  cases ended with
  | settled unreported closed =>
    refine .settled (mt reports.mp unreported) fun row queued named => ?_
    have apart : row.id ≠ sent.id := fun same => other (named.symm.trans same)
    exact closed row ((others row apart).mp queued) named
  | @failed row reported queued isOpen retains =>
    have apart : row.id ≠ sent.id := fun same => other (retains.id.symm.trans same)
    exact .failed (reports.mpr reported) ((others row apart).mpr queued) isOpen retains

/-- An operation that was concluded (`Concludes`) has ended. -/
theorem ended_of_concludes (unreported : ¬ result.Reports sent.id)
    (concludes : store.Concludes sent failure next) :
    Ended next (result.note sent failure) sent := by
  cases concludes with
  | settled others closed => exact .settled unreported closed
  | failed failure others queued isOpen retains =>
    exact .failed (reports_note.mpr (.inr ⟨rfl, rfl⟩)) queued isOpen retains

end PushResult

/-- How a push stands that began with a store: the operations that wait are as they were
sent, and each of the others has ended. -/
structure Accounts (start : Store) (scope : List String) (store : Store) (result : PushResult)
    (waiting : List Operation) : Prop where
  sound : store.QueueSound
  counted : result.completed + result.failures.length + waiting.length =
    (start.openIn scope).length
  others : ∀ row : Operation, (∀ operation ∈ start.openIn scope, operation.id ≠ row.id) →
    (row ∈ store.queue ↔ row ∈ start.queue)
  waits : ∀ operation ∈ waiting, operation ∈ start.openIn scope ∧ operation ∈ store.queue
  distinct : waiting.Nodup
  ends : ∀ operation ∈ start.openIn scope,
    operation ∈ waiting ∨ PushResult.Ended store result operation
  reported : ∀ id, result.Reports id →
    ∃ operation ∈ start.openIn scope, operation ∉ waiting ∧ operation.id = id

namespace Accounts

variable {start store : Store} {scope : List String} {result : PushResult} {sent : Operation}
  {waiting rest : List Operation}

theorem mem_openIn {operation : Operation} : operation ∈ start.openIn scope ↔
    operation ∈ start.queue ∧ operation.isOpen ∧ operation.table ∈ scope := by
  simp [Store.openIn]

/-- Operations of one identity that are open in a sound store are one operation. -/
theorem eq_of_id (sound : start.QueueSound) {left right : Operation}
    (leftOpen : left ∈ start.openIn scope) (rightOpen : right ∈ start.openIn scope)
    (same : left.id = right.id) : left = right :=
  sound.eq_of_id (mem_openIn.mp leftOpen).1 (mem_openIn.mp rightOpen).1 same

/-- A push begins with every open operation waiting: `openIn` lists them. -/
theorem begin (sound : start.QueueSound) (scope : List String) :
    Accounts start scope start .empty (start.openIn scope) where
  sound := sound
  counted := by simp [PushResult.empty]
  others := fun _ _ => Iff.rfl
  waits := fun operation among => ⟨among, (mem_openIn.mp among).1⟩
  distinct := sound.nodup_queue.filter _
  ends := fun _ => Or.inl
  reported := by simp [PushResult.Reports, PushResult.empty]

/-- The order of those that wait does not matter. -/
theorem perm (accounts : Accounts start scope store result waiting) (same : waiting.Perm rest) :
    Accounts start scope store result rest where
  sound := accounts.sound
  counted := same.length_eq ▸ accounts.counted
  others := accounts.others
  waits := fun operation among => accounts.waits operation (same.mem_iff.mpr among)
  distinct := same.nodup_iff.mp accounts.distinct
  ends := fun operation among => (accounts.ends operation among).imp_left same.mem_iff.mp
  reported := fun id noted =>
    (accounts.reported id noted).imp fun _ found =>
      found.imp_right (And.imp_left (mt same.mem_iff.mpr))

/-- The conclusion of one that waits is written, and it has ended. -/
theorem conclude (startSound : start.QueueSound)
    (accounts : Accounts start scope store result (sent :: rest)) (conclusion : Conclusion)
    (now : Instant) :
    Accounts start scope (store.conclude sent conclusion now).2
      (result.note sent (store.conclude sent conclusion now).1) rest := by
  obtain ⟨listed, queued⟩ := accounts.waits sent (List.mem_cons_self ..)
  obtain ⟨fresh, distinct⟩ := List.nodup_cons.mp accounts.distinct
  have found := accounts.sound.operation?_eq_some.mpr ⟨queued, rfl⟩
  have unreported : ¬ result.Reports sent.id := by
    intro noted
    obtain ⟨operation, among, waitsNot, named⟩ := accounts.reported sent.id noted
    rw [eq_of_id startSound among listed named] at waitsNot
    exact waitsNot (List.mem_cons_self ..)
  have differs (operation : Operation) (among : operation ∈ start.openIn scope)
      (other : operation ≠ sent) : operation.id ≠ sent.id :=
    fun same => other (eq_of_id startSound among listed same)
  have sound := accounts.sound.conclude sent conclusion now
  have concludes :=
    Store.concludes_of_conclude accounts.sound found (mem_openIn.mp listed).2.1 conclusion now
  generalize (store.conclude sent conclusion now).1 = failure at concludes ⊢
  generalize (store.conclude sent conclusion now).2 = next at concludes sound ⊢
  have others := concludes.others
  refine ⟨sound, ?_, fun row apart => ?_, fun operation among => ?_, distinct,
    fun operation among => ?_, fun id noted => ?_⟩
  · have counted := accounts.counted
    rw [List.length_cons] at counted
    rw [PushResult.counted_note unreported]
    omega
  · exact (others row (apart sent listed).symm).trans (accounts.others row apart)
  · obtain ⟨operationListed, operationQueued⟩ :=
      accounts.waits operation (List.mem_cons_of_mem _ among)
    have other : operation ≠ sent := fun same => fresh (same ▸ among)
    have kept := (others operation (differs _ operationListed other)).mpr operationQueued
    exact ⟨operationListed, kept⟩
  · by_cases own : operation = sent
    · subst own
      exact .inr (PushResult.ended_of_concludes unreported concludes)
    · rcases accounts.ends operation among with waits | ended
      · exact .inl ((List.mem_cons.mp waits).resolve_left own)
      · exact .inr (ended.note others (differs operation among own))
  · rcases PushResult.reports_note.mp noted with earlier | ⟨-, rfl⟩
    · obtain ⟨operation, among, waitsNot, named⟩ := accounts.reported id earlier
      exact ⟨operation, among, fun waits => waitsNot (List.mem_cons_of_mem _ waits), named⟩
    · exact ⟨sent, listed, fresh, rfl⟩

variable {after : Store} {row : Operation}

/-- When all have ended, an operation under the identity of a listed one is that operation:
it is closed, or it is reported and open as it was. -/
theorem row_cases (accounts : Accounts start scope after result []) {operation : Operation}
    (listed : operation ∈ start.openIn scope) (queued : row ∈ after.queue)
    (named : operation.id = row.id) :
    Operation.SameRow operation row ∧
      (¬ row.isOpen ∨ row.isOpen ∧ result.Reports row.id ∧ row.Retains operation) := by
  rcases accounts.ends operation listed with waits | ended
  · cases waits
  · cases ended with
    | settled unreported closed =>
      obtain ⟨same, isClosed⟩ := closed row queued named.symm
      exact ⟨same, .inl isClosed⟩
    | failed reported present isOpen retains =>
      cases accounts.sound.eq_of_id present queued (retains.id.trans named)
      exact ⟨retains.toSameRow, .inr ⟨isOpen, named ▸ reported, retains⟩⟩

/-- When all have ended, an open operation of the scope is a listed one that is reported. -/
theorem reported_of_open (accounts : Accounts start scope after result [])
    (isOpen : row ∈ after.openIn scope) :
    result.Reports row.id ∧ ∃ operation ∈ start.openIn scope, row.Retains operation := by
  obtain ⟨queued, rowOpen, within⟩ := mem_openIn.mp isOpen
  have listed : ∃ operation ∈ start.openIn scope, operation.id = row.id := by
    refine Classical.byContradiction fun unlisted => ?_
    have apart : ∀ operation ∈ start.openIn scope, operation.id ≠ row.id :=
      fun operation among same => unlisted ⟨operation, among, same⟩
    exact apart row (mem_openIn.mpr ⟨(accounts.others row apart).mp queued, rowOpen, within⟩) rfl
  obtain ⟨operation, among, named⟩ := listed
  obtain ⟨-, isClosed | ⟨-, reported, retains⟩⟩ := accounts.row_cases among queued named
  · exact absurd rowOpen isClosed
  · exact ⟨reported, operation, among, retains⟩

/-- When all have ended, the operations that a result `Reports` are those of the scope that are
open. -/
theorem reports_iff (accounts : Accounts start scope after result []) (id : String) :
    result.Reports id ↔ ∃ row ∈ after.openIn scope, row.id = id := by
  constructor
  · intro noted
    obtain ⟨operation, among, -, rfl⟩ := accounts.reported id noted
    rcases accounts.ends operation among with waits | ended
    · cases waits
    · cases ended with
      | settled unreported closed => exact absurd noted unreported
      | @failed row reported queued isOpen retains =>
        have within : row.table ∈ scope := retains.table ▸ (mem_openIn.mp among).2.2
        exact ⟨row, mem_openIn.mpr ⟨queued, isOpen, within⟩, retains.id⟩
  · rintro ⟨row, isOpen, rfl⟩
    exact (accounts.reported_of_open isOpen).1

/-- When all have ended, the operations of other tables are those that were queued. -/
theorem mem_queue_of_other (startSound : start.QueueSound)
    (accounts : Accounts start scope after result []) (other : row.table ∉ scope) :
    row ∈ after.queue ↔ row ∈ start.queue := by
  by_cases listed : ∃ operation ∈ start.openIn scope, operation.id = row.id
  · obtain ⟨operation, among, named⟩ := listed
    obtain ⟨operationQueued, -, within⟩ := mem_openIn.mp among
    constructor
    · intro queued
      have same := (accounts.row_cases among queued named).1
      exact absurd (same.table ▸ within) other
    · intro queued
      cases startSound.eq_of_id operationQueued queued named
      exact absurd within other
  · exact accounts.others row fun operation among same => listed ⟨operation, among, same⟩

/-- A completed operation stays as it was. -/
theorem mem_queue_of_completed (startSound : start.QueueSound)
    (accounts : Accounts start scope after result []) (completed : row.state = .completed)
    (queued : row ∈ start.queue) : row ∈ after.queue := by
  refine (accounts.others row fun operation among same => ?_).mpr queued
  obtain ⟨operationQueued, isOpen, -⟩ := mem_openIn.mp among
  cases startSound.eq_of_id operationQueued queued same
  simp [Operation.isOpen, completed] at isOpen

end Accounts

/-! ### Pushes -/

/-- A worker in whose flights nobody edits leaves the store as it was: `workOn` writes nothing. -/
theorem Run.store_workOn {σ : Type} {remote : Remote σ}
    (quiet : ∀ request state, (remote request state).1.edits = []) (run : Run σ)
    (policy : Option ConflictPolicy) (operation : Operation) (stage : Stage) :
    (run.workOn remote policy operation stage).2.store = run.store := by
  rcases run.run_workOn remote policy operation stage with same | ⟨request, sent⟩
  · rw [same]
  · rw [sent]
    exact Run.store_send (quiet request run.remote)

namespace Crew

variable {σ : Type} {remote : Remote σ} {policies : PolicyChoice} {workers : Nat}
  {crew next ending : Crew σ} {start : Store} {scope : List String} {run : Run σ}
  {result : PushResult}

/-- The operations that have not ended: those that wait and those in hand. -/
def unended (crew : Crew σ) : List Operation :=
  crew.waiting ++ crew.inHand.map Prod.fst

/-- Each step of a push that nobody edits during keeps its account (`Accounts`). -/
theorem Step.accounts (happens : Step remote policies workers crew next)
    (sound : start.QueueSound) (quiet : ∀ request state, (remote request state).1.edits = [])
    (accounts : Accounts start scope crew.run.store crew.result crew.unended) :
    Accounts start scope next.run.store next.result next.unended := by
  cases happens with
  | @takenUp operation rest waits goesOn uncancelled free =>
    refine accounts.perm ?_
    rw [unended, unended, waits, List.map_append, ← List.append_assoc]
    exact (List.perm_append_singleton operation _).symm
  | @worked before after operation stage held unconcluded =>
    have same := crew.run.store_workOn quiet (policies operation.table) operation stage
    rw [unended, held] at accounts
    simpa [unended, withWork, same] using accounts
  | @settled before after operation conclusion held =>
    have first : crew.unended.Perm
        (operation :: (crew.withSettled (before ++ after) operation conclusion).unended) := by
      simp only [unended, withSettled, held, List.map_append, List.map_cons]
      rw [← List.append_assoc, ← List.append_assoc]
      exact List.perm_middle
    exact (accounts.perm first).conclude sound conclusion crew.run.now
  | cancelled => exact accounts
  | stopped waits fired => exact accounts

/-- However the workers go on, the push accounts for what it began with. -/
theorem accounts_of_leads (sound : run.store.QueueSound) (named : scope ≠ [])
    (quiet : ∀ request state, (remote request state).1.edits = [])
    (leads : Leads remote policies workers (ofRun run scope) crew) :
    Accounts run.store scope crew.run.store crew.result crew.unended := by
  induction leads with
  | refl =>
    have listed : run.store.listOpen scope = run.store.openIn scope := by
      simp [Store.listOpen, Store.openIn, Store.inScope, List.isEmpty_eq_false_iff.mpr named]
    have begun := Accounts.begin sound scope
    rw [← listed] at begun
    simpa [unended, ofRun] using begun
  | tail earlier last inductionHypothesis => exact last.accounts sound quiet inductionHypothesis

/-- When a push is over and was not cut off, each operation has ended. -/
theorem accounts_of_ended (sound : run.store.QueueSound) (named : scope ≠ [])
    (quiet : ∀ request state, (remote request state).1.edits = [])
    (leads : Leads remote policies workers (ofRun run scope) ending) (ended : ending.Ended)
    (answered : ending.answer = .ok result) :
    Accounts run.store scope ending.run.store result [] := by
  have accounts := accounts_of_leads sound named quiet leads
  obtain ⟨idle, done⟩ := ended
  unfold answer at answered
  split at answered
  · cases answered
  · rename_i goesOn
    cases answered
    rwa [unended, idle, done.resolve_right goesOn] at accounts

end Crew

namespace Context

variable {σ : Type} {context : Context} {remote : Remote σ} {state : σ} {tables : List String}
  {workers : Nat} {signal : CancelSignal} {now : Instant} {start after : Store}
  {result : PushResult}

/-- The ways in which a push of a context can end without being cut off, however its workers
go on, with a result and a store. -/
inductive PushEnds (context : Context) (remote : Remote σ) (state : σ) (tables : List String)
    (workers : Nat) (signal : CancelSignal) (now : Instant) : PushResult → Store → Prop where
  /-- No table is registered. -/
  | unscoped {store : Store} (opened : context.database = .opened store)
      (chosen : context.scope tables = .ok []) :
      PushEnds context remote state tables workers signal now .empty store
  | worked {store : Store} {scope : List String} {ending : Crew σ} {result : PushResult}
      (opened : context.database = .opened store) (chosen : context.scope tables = .ok scope)
      (named : scope ≠ []) (allowed : checkWorkers "max_parallelism" workers = .ok ())
      (leads : Crew.Leads remote context.policyFor workers
        (.ofRun ⟨store, state, signal, [], now⟩ scope) ending)
      (ended : ending.Ended) (answered : ending.answer = .ok result) :
      PushEnds context remote state tables workers signal now result ending.run.store

/-- What a push leaves of the open operations in its scope. -/
theorem PushEnds.accounts
    (ends : context.PushEnds remote state tables workers signal now result after)
    (opened : context.database = .opened start) (reachable : start.Reachable)
    (quiet : ∀ request state, (remote request state).1.edits = []) :
    ∃ scope, context.scope tables = .ok scope ∧ Accounts start scope after result [] := by
  have sound := reachable.queueSound
  cases ends with
  | unscoped held chosen =>
    cases opened.symm.trans held
    have idle := Accounts.begin sound []
    have none : start.openIn [] = [] := by simp [Store.openIn]
    rw [none] at idle
    exact ⟨[], chosen, idle⟩
  | worked held chosen named allowed leads ended answered =>
    cases opened.symm.trans held
    exact ⟨_, chosen, Crew.accounts_of_ended sound named quiet leads ended answered⟩

/-- The push of a context is one of the ways in which its workers can go on: it `PushEnds` so. -/
theorem exists_pushEnds (opened : context.database = .opened start)
    (pushed : (context.push remote state tables workers signal now).answer = .ok result) :
    ∃ after, (context.push remote state tables workers signal now).context.database =
        .opened after ∧
      context.PushEnds remote state tables workers signal now result after := by
  unfold push at pushed ⊢
  cases chosen : context.scope tables with
  | error fault =>
    rw [chosen] at pushed
    cases pushed
  | ok scope =>
    rw [chosen] at pushed
    cases scope with
    | nil =>
      cases pushed
      exact ⟨start, opened, .unscoped opened chosen⟩
    | cons table more =>
      dsimp only at pushed ⊢
      cases allowed : checkWorkers "max_parallelism" workers with
      | error fault =>
        rw [allowed] at pushed
        cases pushed
      | ok _ =>
        have positive : 0 < workers := by
          unfold checkWorkers at allowed
          split at allowed
          · rename_i within
            simp only [Parallelism.allowed, Bool.and_eq_true, decide_eq_true_eq] at within
            exact within.1
          · cases allowed
        rw [allowed] at pushed
        unfold carryOut at pushed ⊢
        rw [opened] at pushed ⊢
        obtain ⟨ending, leads, ended, same⟩ := Run.leads_push remote context.policyFor positive
          (table :: more) ⟨start, state, signal, [], now⟩
        have answered : ending.answer = .ok result := (congrArg Prod.fst same).trans pushed
        have reached : ending.run.store = _ := congrArg (fun outcome => outcome.2.store) same
        refine ⟨_, rfl, ?_⟩
        rw [← reached]
        exact .worked opened chosen (List.cons_ne_nil _ _) allowed leads ended answered

end Context

section

variable {σ : Type} {context : Context} {remote : Remote σ} {state : σ} {tables : List String}
  {workers : Nat} {signal : CancelSignal} {now : Instant} {start : Store}

/-- However its workers go on (`PushEnds`), a push that is not cut off settles or reports each
open operation in its scope. The operations open afterwards are those reported, as they were but
for what the attempt left on them (`Operation.Retains`); every operation of another table and
every completed one stays. The push of a context is one of these. -/
theorem push_accounts_for_all (opened : context.database = .opened start)
    (reachable : start.Reachable)
    (quiet : ∀ request state, (remote request state).1.edits = []) :
    (∀ result after, context.PushEnds remote state tables workers signal now result after →
      ∃ scope, context.scope tables = .ok scope ∧
        result.completed + result.failures.length = (start.openIn scope).length ∧
        (∀ id, id ∈ KeyedList.keys result.failures ↔ ∃ row ∈ after.openIn scope, row.id = id) ∧
        (∀ row ∈ after.openIn scope, ∃ before ∈ start.openIn scope, row.Retains before) ∧
        (∀ row : Operation, row.table ∉ scope → (row ∈ after.queue ↔ row ∈ start.queue)) ∧
        ∀ row ∈ start.queue, row.state = .completed → row ∈ after.queue) ∧
      ∀ result, (context.push remote state tables workers signal now).answer = .ok result →
        ∃ after, (context.push remote state tables workers signal now).context.database =
            .opened after ∧
          context.PushEnds remote state tables workers signal now result after := by
  refine ⟨fun result after ends => ?_, fun result pushed => Context.exists_pushEnds opened pushed⟩
  obtain ⟨scope, chosen, accounts⟩ := ends.accounts opened reachable quiet
  refine ⟨scope, chosen, accounts.counted, fun id => ?_, fun row isOpen => ?_,
    fun row other => ?_, fun row queued completed => ?_⟩
  · exact KeyedList.mem_keys.trans (accounts.reports_iff id)
  · exact (accounts.reported_of_open isOpen).2
  · exact accounts.mem_queue_of_other reachable.queueSound other
  · exact accounts.mem_queue_of_completed reachable.queueSound completed queued

end

namespace Removals

/-- A removal as it is queued. -/
def removal (table id : String) : Mutation := ⟨.delete, table, id, "", none, none⟩

/-- The operation of a removal. -/
def operation (table id : String) (sequence : Int) : Operation :=
  .ofMutation (removal table id) sequence ⟨0, 0⟩

/-- A store in which removals of two entities of a table and of one of another are queued. -/
def start : Store :=
  ((Store.empty.appendOperation (operation "todo" "1" 1)).appendOperation
    (operation "note" "1" 2)).appendOperation (operation "todo" "2" 3)

theorem reachable_start : start.Reachable := by
  have first := Store.Step.edited
    (show Store.empty.recordLocalMutation (removal "todo" "1") ⟨0, 0⟩ =
      .ok (.created (operation "todo" "1" 1), _) from rfl)
  have second := Store.Step.edited
    (show (Store.empty.appendOperation (operation "todo" "1" 1)).recordLocalMutation
      (removal "note" "1") ⟨0, 0⟩ = .ok (.created (operation "note" "1" 2), _) from rfl)
  have third := Store.Step.edited
    (show ((Store.empty.appendOperation (operation "todo" "1" 1)).appendOperation
      (operation "note" "1" 2)).recordLocalMutation (removal "todo" "2") ⟨0, 0⟩ =
        .ok (.created (operation "todo" "2" 3), start) from rfl)
  exact ((Store.Reachable.empty.step first).step second).step third

/-- A context with both tables. -/
def context : Context where
  database := .opened start
  tables := [("note", ⟨none, none⟩), ("todo", ⟨none, none⟩)]
  policy := none
  compile := fun _ => ""
  settings := .default ""

/-- A remote that removes the first entity and refuses all else. -/
def remote : Remote Unit
  | .delete _ "1" _, _ => (⟨[], false, .ok ⟨204, none, none⟩⟩, ())
  | _, _ => (⟨[], false, .ok ⟨500, none, none⟩⟩, ())

theorem remote_quiet (request : Request) (state : Unit) : (remote request state).1.edits = [] := by
  unfold remote
  split <;> rfl

/-- How the push of the table ends. -/
def result : PushResult :=
  ⟨1, [(Operation.idOfSequence 3, ⟨some 500, "HTTP 500", none⟩)]⟩

/-- Of two removals one is carried out and one refused, which stays open as the removal of
the other table does. -/
theorem push_accounts_for_all_removals :
    (context.push remote () ["todo"] 2 .never ⟨0, 0⟩).answer = .ok result ∧
      (start.openIn ["todo"]).length = 2 ∧
      ∃ after, (context.push remote () ["todo"] 2 .never ⟨0, 0⟩).context.database = .opened after ∧
        (∃ row ∈ after.openIn ["todo"], row.id = Operation.idOfSequence 3) ∧
        operation "note" "1" 2 ∈ after.queue := by
  have pushed : (context.push remote () ["todo"] 2 .never ⟨0, 0⟩).answer = .ok result := rfl
  obtain ⟨accounted, isOne⟩ :=
    @push_accounts_for_all _ context remote () ["todo"] 2 .never ⟨0, 0⟩ start rfl
      reachable_start remote_quiet
  obtain ⟨after, reached, ends⟩ := isOne result pushed
  obtain ⟨scope, chosen, -, reported, -, others, -⟩ := accounted result after ends
  cases (show context.scope ["todo"] = .ok ["todo"] from rfl).symm.trans chosen
  refine ⟨pushed, rfl, after, reached, (reported _).mp (List.mem_singleton.mpr rfl), ?_⟩
  exact (others _ (by decide)).mpr (by simp [start, Store.appendOperation, Store.empty])

end Removals

end OfflineSync
