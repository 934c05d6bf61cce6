import OfflineSync.Proofs.Store.Confinement
import OfflineSync.Proofs.Store.Mirroring
import OfflineSync.Proofs.Sync.PulledPages
import OfflineSync.Sync.Context

/-!
# Edits that a sync run writes over

A pull or a purge starts only where the tables it is about have no open operation, `Clean`, and
looks no more at the queue. The user goes on editing, since an edit waits for no run: what the run
writes is `Interleaved` with edits. So what it writes goes over an unsent edit exactly where the
entity was edited since that look, and its edits leave something to send. `Run.pull_runsTo` and
`Context.purge_runsTo` say that the pull and the purge of a context write in this way.
-/

namespace OfflineSync

/-- What one more edit of an entity leaves to send: the kind of its open operation. -/
def kindAfter (present : Option OperationKind) (edit : Mutation) : Option OperationKind :=
  match coalesceKinds present edit.kind with
  | .ok (.create kind) | .ok (.update kind) => some kind
  | .ok .remove => none
  | .error _ => present

/-- What edits of an entity leave to send that had nothing to send before, each by `kindAfter`. -/
def kindLeft (edits : List Mutation) : Option OperationKind :=
  edits.foldl kindAfter none

/-- Whether an edit is of the entity under a key. -/
def Mutation.isFor (key : EntityKey) (edit : Mutation) : Bool :=
  edit.table == key.table && edit.itemId == key.id

namespace Store

variable {store next queued start : Store} {mutation : Mutation} {now : Instant}
  {outcome : EnqueueOutcome} {tables : List String} {key : EntityKey} {edits : List Mutation}

/-- The kind of the open operation of an entity. -/
def openKind (store : Store) (key : EntityKey) : Option OperationKind :=
  (store.openOperation? key.table key.id).map Operation.kind

/-- Whether no operation of some tables is open. -/
def Clean (tables : List String) (store : Store) : Prop :=
  ∀ operation ∈ store.queue, operation.isOpen → operation.table ∉ tables

/-- What a run on some tables writes: a pulled row, or the removal of a table. -/
inductive SyncWrites (tables : List String) (store : Store) : Store → Prop where
  | row {table tokenKey : String} {row : Document} {outcome : RowOutcome} {next : Store}
      (within : table ∈ tables)
      (applied : store.applyRemoteRow table row tokenKey = .ok (outcome, next)) :
      SyncWrites tables store next
  | purge {table : String} (within : table ∈ tables) :
      SyncWrites tables store (store.purgeTable table false).2

/-- The stores that a run on some tables and the edits made since it looked at the queue
lead to, with these edits in order. The edits may fall anywhere between the writes. -/
inductive Interleaved (tables : List String) (start : Store) : List Mutation → Store → Prop where
  | checked (clean : start.Clean tables) : Interleaved tables start [] start
  | edited {edits : List Mutation} {store next : Store} {mutation : Mutation} {now : Instant}
      {outcome : EnqueueOutcome} (earlier : Interleaved tables start edits store)
      (recorded : store.recordLocalMutation mutation now = .ok (outcome, next)) :
      Interleaved tables start (edits ++ [mutation]) next
  | written {edits : List Mutation} {store next : Store}
      (earlier : Interleaved tables start edits store) (writes : store.SyncWrites tables next) :
      Interleaved tables start edits next

/-! ### What is left to send -/

/-- An edit is for the entity that it names. -/
theorem isFor_iff_key :
    mutation.isFor key ↔ (⟨mutation.table, mutation.itemId⟩ : EntityKey) = key := by
  cases key
  simp [Mutation.isFor]

/-- A queued edit decides what is left to send of its entity (`openKind`), and of no other. -/
theorem Enqueues.openKind (enqueues : store.Enqueues mutation now next) (sound : store.QueueSound)
    (key : EntityKey) : next.openKind key =
      if mutation.isFor key then kindAfter (store.openKind key) mutation
      else store.openKind key := by
  unfold Store.openKind
  split
  · rename_i own
    cases isFor_iff_key.mp own
    have opens := enqueues.opens sound
    generalize next.openOperation? mutation.table mutation.itemId = opened at opens ⊢
    cases opens with
    | created free =>
      rw [free]
      rfl
    | merged found transition =>
      rw [found, Option.map_some, Option.map_some, kindAfter, transition]
      rfl
    | cancelled found creates deletes =>
      rw [found, Option.map_some, kindAfter, creates, deletes]
      rfl
  · rename_i other
    have differs : key ≠ ⟨mutation.table, mutation.itemId⟩ := fun same =>
      other (isFor_iff_key.mpr same.symm)
    rw [(enqueues.sameBeside sound).openOperation? differs]

/-- A run writes nothing to the queue. -/
theorem SyncWrites.queue (writes : store.SyncWrites tables next) :
    next.queue = store.queue ∧ next.lastSequence = store.lastSequence := by
  cases writes with
  | row within applied => exact queue_of_applyRemoteRow applied
  | purge within => exact ⟨rfl, rfl⟩

/-- A document is written to a local copy of its table. -/
theorem table_of_putEntity {table : String} {document : Document}
    (written : store.putEntity table document = .ok next)
    (changed : next.entity? key ≠ store.entity? key) : key.table = table := by
  obtain ⟨metadata, -, rfl⟩ := putEntity_eq_ok.mp written
  rw [entity?_withCopy] at changed
  split at changed
  · rename_i same
    rw [← same]
  · exact absurd rfl changed

/-- A pulled row is placed (`PlacesRow`) among the local copies of its table. -/
theorem PlacesRow.table {table : String} {row : Document} {metadata : EntityMetadata}
    {outcome : RowOutcome} (places : store.PlacesRow table row metadata outcome next)
    (changed : next.entity? key ≠ store.entity? key) : key.table = table := by
  cases places with
  | skipped removes absent => exact absurd rfl changed
  | deleted removes found =>
    rw [entity?_removeEntity] at changed
    split at changed
    · rename_i same
      rw [← same]
    · exact absurd rfl changed
  | inserted keeps absent written => exact table_of_putEntity written changed
  | replaced keeps found denotes written => exact table_of_putEntity written changed

/-- A run writes (`SyncWrites`) the local copies of its own tables alone. -/
theorem SyncWrites.within (writes : store.SyncWrites tables next)
    (changed : next.entity? key ≠ store.entity? key) : key.table ∈ tables := by
  cases writes with
  | @row table tokenKey row outcome _ within applied =>
    obtain ⟨metadata, usable, known⟩ := bind_eq_ok.mp applied
    obtain ⟨placed, places, rfl⟩ := placesRow_of_applyKnownRow (metadataOf_eq_ok.mp usable) known
    exact places.table (by simpa using changed) ▸ within
  | @purge table within =>
    have removed : (store.purgeTable table false).2.entity? key =
        (store.removeTable table).entity? key := rfl
    rw [removed, entity?_removeTable] at changed
    split at changed
    · rename_i same
      exact same ▸ within
    · exact absurd rfl changed

/-- While a run writes and the user edits, the queue stays sound. -/
theorem Interleaved.queueSound (interleaved : Interleaved tables start edits store)
    (sound : start.QueueSound) : store.QueueSound := by
  induction interleaved with
  | checked clean => exact sound
  | edited earlier recorded inductionHypothesis =>
    exact (Step.edited recorded).queueSound inductionHypothesis
  | written earlier writes inductionHypothesis =>
    obtain ⟨queue, counter⟩ := writes.queue
    exact inductionHypothesis.of_same queue counter

/-- What is open of an entity of the run's tables (`openKind`) is what its edits since the look at
the queue have left to send (`kindLeft`). -/
theorem Interleaved.openKind (interleaved : Interleaved tables start edits store)
    (sound : start.QueueSound) (within : key.table ∈ tables) :
    store.openKind key = kindLeft (edits.filter (Mutation.isFor key)) := by
  induction interleaved with
  | checked clean =>
    have free : start.openOperation? key.table key.id = none :=
      openOperation?_eq_none.mpr fun operation queued belongs isOpen =>
        clean operation queued isOpen ((Operation.isFor_iff.mp belongs).1 ▸ within)
    rw [Store.openKind, free]
    rfl
  | @edited edits store next mutation now outcome earlier recorded inductionHypothesis =>
    obtain ⟨queued, enqueues, writes⟩ := recordLocalMutation_eq_ok recorded
    have same : next.openKind key = queued.openKind key :=
      congrArg _ (writes.differsInCopies.openOperation? key.table key.id)
    rw [same, enqueues.openKind (earlier.queueSound sound), inductionHypothesis,
      List.filter_append, List.filter_singleton]
    split
    · rename_i own
      rw [own, kindLeft, kindLeft, cond_true, List.foldl_append]
      rfl
    · rename_i other
      rw [Bool.eq_false_iff.mpr other, cond_false, List.append_nil]
  | written earlier writes inductionHypothesis =>
    rw [← inductionHypothesis, Store.openKind, Store.openKind, openOperation?, writes.queue.1,
      openOperation?]

/-- What a run writes over an entity (`SyncWrites`) goes over an unsent edit exactly where
the edits of the entity since the run looked at the queue leave something to send, as `kindLeft`
tells. The operation stays queued as it is. -/
theorem overwritten_iff_edited_since (reachable : start.Reachable)
    (interleaved : Interleaved tables start edits store) (writes : store.SyncWrites tables next)
    (changed : next.entity? key ≠ store.entity? key) :
    ((store.openOperation? key.table key.id).isSome ↔
        (kindLeft (edits.filter (Mutation.isFor key))).isSome) ∧
      next.queue = store.queue := by
  have left := interleaved.openKind reachable.queueSound (writes.within changed)
  refine ⟨?_, writes.queue.1⟩
  rw [← left, Store.openKind, Option.isSome_map]

namespace Overtaken

/-- A creation that is made while a page is on its way. -/
def creation : Mutation := Sample.edit .add none

/-- The store after the creation. -/
def created : Store where
  entities := [(⟨"todo", "1"⟩, .ofDocument Sample.document ⟨"1", none, none, false⟩)]
  queue := [.ofMutation creation 1 ⟨0, 0⟩]
  watermarks := []
  lastSequence := 1

/-- A row of the page that describes the entity too. -/
def row : Document :=
  .object [("id", .text "1"), ("t", .text "b")]

/-- The store after the row was applied. -/
def written : Store :=
  { created with entities := [(⟨"todo", "1"⟩, .ofDocument row ⟨"1", none, none, false⟩)] }

theorem recorded_creation : empty.recordLocalMutation creation ⟨0, 0⟩ =
    .ok (.created (.ofMutation creation 1 ⟨0, 0⟩), created) := by
  have applied : (empty.appendOperation (.ofMutation creation 1 ⟨0, 0⟩)).applyEdit creation =
      .ok created := by
    have read : Document.read creation.item = some Sample.document := Sample.read_render_document
    unfold applyEdit
    rw [read]
    exact addEntity_eq_ok.mpr ⟨_, Sample.usable_document, rfl, rfl⟩
  exact recordLocalMutation_eq rfl applied

theorem applied_row :
    created.applyRemoteRow "todo" row "dt.todo.all" = .ok (.replaced, written) := by
  have usable : EntityMetadata.ofDocument row = .ok ⟨"1", none, none, false⟩ := rfl
  have read : created.readEntity ⟨"todo", "1"⟩ =
      .ok (some ⟨"todo", "1", Sample.document, none, none⟩) :=
    readEntity_eq_ok_some.mpr
      ⟨_, rfl, EntityRow.read_eq_ok.mpr ⟨_, Sample.read_render_document, rfl⟩⟩
  have placed : created.putEntity "todo" (Sample.document.overlay row) = .ok written :=
    putEntity_eq_ok.mpr ⟨_, usable, rfl⟩
  have merges : created.mergeEntity "todo" row = .ok written :=
    mergeEntity_eq_ok.mpr ⟨_, usable, .inl ⟨_, read, placed⟩⟩
  exact bind_eq_ok.mpr ⟨_, metadataOf_eq_ok.mpr usable,
    bind_eq_ok.mpr ⟨_, read, bind_eq_ok.mpr ⟨written, merges, rfl⟩⟩⟩

/-- The row goes over the creation, which waits to be sent. -/
theorem overwritten_iff_edited_since_overtaken :
    empty.Reachable ∧ Interleaved ["todo"] empty [creation] created ∧
      created.SyncWrites ["todo"] written ∧
      written.entity? ⟨"todo", "1"⟩ ≠ created.entity? ⟨"todo", "1"⟩ ∧
      (created.openOperation? "todo" "1").isSome ∧ written.queue = created.queue := by
  have clean : empty.Clean ["todo"] := by simp [Clean, empty]
  have interleaved : Interleaved ["todo"] empty [creation] created :=
    .edited (.checked clean) recorded_creation
  have writes : created.SyncWrites ["todo"] written :=
    .row (List.mem_singleton.mpr rfl) applied_row
  have changed : written.entity? ⟨"todo", "1"⟩ ≠ created.entity? ⟨"todo", "1"⟩ := by decide
  obtain ⟨overtakes, kept⟩ := overwritten_iff_edited_since .empty interleaved writes changed
  exact ⟨.empty, interleaved, writes, changed, overtakes.mpr rfl, kept⟩

end Overtaken

/-! ### Pulls and purges -/

/-- Whether a run on some tables, with some edits meanwhile, leads from one store to another. -/
def RunsTo (tables : List String) (start store : Store) : Prop :=
  ∃ edits, Interleaved tables start edits store

/-- The edits made while a run waits for an answer, by `editAll`. -/
theorem RunsTo.editAll (runs : RunsTo tables start store) (now : Instant) (edits : List Edit) :
    RunsTo tables start (store.editAll now edits).2 := by
  refine editAll_induction (motive := RunsTo tables start) runs ?_
  rintro edit - mutation - before outcome after ⟨edits, interleaved⟩ recorded
  exact ⟨_, interleaved.edited recorded⟩

/-- The rows of a page are written in turn. -/
theorem RunsTo.applyPage {table : String} (runs : RunsTo tables start store)
    (within : table ∈ tables) (tokenKey : String) (rows : List Document) :
    RunsTo tables start (store.applyPage table tokenKey rows).2 := by
  refine applyPage_induction (motive := fun next _ => RunsTo tables start next) runs ?_ ?_
  · exact fun _ _ _ _ _ _ runs => runs
  · rintro row - metadata usable before outcome after applied done ⟨edits, interleaved⟩
    have remote : before.applyRemoteRow table row tokenKey = .ok (outcome, after) :=
      bind_eq_ok.mpr ⟨metadata, metadataOf_eq_ok.mpr usable, applied⟩
    exact ⟨_, interleaved.written (.row within remote)⟩

end Store

section Pulls

variable {σ : Type} {remote : Remote σ} {options : PullOptions} {tables : List String}
  {start : Store} {run : Run σ}

/-- The pages of a pull and the edits made between them. -/
theorem Store.RunsTo.pulls {table : String} {keys : List String} {pages : List (List Document)}
    {result : TablePullResult} {after : Run σ} (runs : RunsTo tables start run.store)
    (pulls : Run.Pulls remote table keys run pages result after) (within : table ∈ tables) :
    RunsTo tables start after.store := by
  induction pulls with
  | stopped run error => exact runs
  | unanswered run request fault => exact runs.editAll _ _
  | refused among answered refuses => exact (runs.editAll _ _).applyPage within _ _
  | applied among answered applies rest inductionHypothesis =>
    exact inductionHypothesis ((runs.editAll _ _).applyPage within _ _)

/-- The pulls of tables. -/
theorem Store.RunsTo.pullTables {queries : List PullQuery} {list : List String}
    (runs : RunsTo tables start run.store) (within : ∀ table ∈ list, table ∈ tables) :
    RunsTo tables start (run.pullTables remote options queries list).2.store := by
  induction list generalizing run with
  | nil => exact runs
  | cons table rest inductionHypothesis =>
    obtain ⟨own, others⟩ := List.forall_mem_cons.mp within
    have ofTable (query : PullQuery) (among : query ∈ queries.filter (·.table == table)) :
        query.table = table := beq_iff_eq.mp (List.mem_filter.mp among).2
    exact inductionHypothesis (runs.pulls (Run.pulls_pullTable remote options ofTable run) own) others

/-- A store that lists no open operation of some tables, by `listOpen`, is `Clean` of them. -/
theorem Store.clean_of_listOpen {store : Store} (unlisted : store.listOpen tables = []) :
    store.Clean tables := by
  intro operation queued isOpen within
  have listed : operation ∈ store.listOpen tables := by
    simp [Store.listOpen, Store.inScope, queued, isOpen, within]
  rw [unlisted] at listed
  cases listed

/-- A store in which no table has an open operation, by `tablesWithOpen`, is `Clean` of them. -/
theorem Store.clean_of_tablesWithOpen {store : Store} (undirty : store.tablesWithOpen tables = []) :
    store.Clean tables :=
  clean_of_listOpen (listOpen_of_tablesWithOpen undirty)

/-- A pull leaves the store alone, or it is a run on the tables of its queries (`RunsTo`). -/
theorem Run.pull_runsTo (run : Run σ) (queries : List PullQuery) :
    (run.pull remote options queries).2.store = run.store ∨
      Store.RunsTo (KeyedList.keys (KeyedList.ofList (queries.map fun query => (query.table, ()))))
        run.store (run.pull remote options queries).2.store := by
  unfold Run.pull
  generalize KeyedList.keys (KeyedList.ofList (queries.map fun query => (query.table, ()))) = tables
  dsimp only
  split
  · exact .inl rfl
  · split
    · exact .inl rfl
    · rename_i undirty
      have clean :=
        Store.clean_of_tablesWithOpen (List.isEmpty_iff.mp (Decidable.not_not.mp undirty))
      have begins : Store.RunsTo tables run.store run.store := ⟨[], .checked clean⟩
      have pulled : Store.RunsTo tables run.store
          (run.pullTables remote options queries tables).2.store :=
        begins.pullTables fun _ => id
      refine .inr ?_
      split <;> exact pulled

/-- A purge that keeps the operations leaves the store alone, or it is a run on its table
(`RunsTo`). -/
theorem Context.purge_runsTo {context : Context} (opened : context.database = .opened start)
    (table : String) : ∃ after, (context.purge table false).2.database = .opened after ∧
      (after = start ∨ Store.RunsTo [table] start after) := by
  unfold Context.purge
  dsimp only
  split
  · exact ⟨start, opened, .inl rfl⟩
  · rename_i unblocked
    obtain ⟨_, -, unblocked⟩ := bind_eq_ok.mp unblocked
    rw [if_pos Bool.false_ne_true] at unblocked
    obtain ⟨waiting, counted, unblocked⟩ := bind_eq_ok.mp unblocked
    rw [Context.look, opened, mapError_eq_ok] at counted
    cases counted
    split at unblocked
    · cases unblocked
    · rename_i idle
      have unlisted := List.eq_nil_of_length_eq_zero (Nat.eq_zero_of_not_pos idle)
      have clean : start.Clean [table] := Store.clean_of_listOpen unlisted
      refine ⟨(start.purgeTable table false).2, ?_, .inr ⟨[], ?_⟩⟩
      · rw [Context.change, opened]
        rfl
      · exact Store.Interleaved.written (.checked clean) (.purge (List.mem_singleton.mpr rfl))

end Pulls

end OfflineSync
