import Mathlib.Data.List.Forall2
import OfflineSync.Proofs.Store.Reachable

/-!
# Numbers in the order of creation

Calls are made on a store one after the other, and a refused call leaves the store as it was,
`Store.attempt`. Each call either appends one operation with the next number or keeps operations in
their rows and in their order, which is what `Numbers` says of it. So the numbers of the operations
that calls create are consecutive, and what is queued stands in the order of its creation
(`Operation.InRowsOf`), however operations are merged, rebased, closed and removed in between.
-/

namespace OfflineSync

namespace Operation

/-- Whether an operation stands in the row of an earlier one. -/
def InRowOf (row origin : Operation) : Prop := SameRow origin row

instance : Std.Refl InRowOf := ⟨SameRow.refl⟩

instance : IsTrans Operation InRowOf := ⟨fun _ _ _ later earlier => earlier.trans later⟩

/-- Whether operations stand in the rows of some of the origins (`InRowOf`), in the same order. -/
def InRowsOf (rows origins : List Operation) : Prop :=
  List.SublistForall₂ InRowOf rows origins

namespace InRowsOf

variable {rows middle origins more : List Operation}

theorem refl (rows : List Operation) : InRowsOf rows rows :=
  List.SublistForall₂.is_refl.refl rows

theorem of_sublist (fewer : rows.Sublist origins) : InRowsOf rows origins :=
  fewer.sublistForall₂

theorem trans (later : InRowsOf rows middle) (earlier : InRowsOf middle origins) :
    InRowsOf rows origins :=
  List.SublistForall₂.is_trans.trans rows middle origins later earlier

/-- Each operation stands in the row of an origin. -/
theorem exists_origin (within : InRowsOf rows origins) {row : Operation} (member : row ∈ rows) :
    ∃ origin ∈ origins, SameRow origin row := by
  induction within with
  | nil => cases member
  | cons same rest inductionHypothesis =>
    rcases List.mem_cons.mp member with rfl | later
    · exact ⟨_, List.mem_cons_self .., same⟩
    · obtain ⟨origin, found, sameRow⟩ := inductionHypothesis later
      exact ⟨origin, List.mem_cons_of_mem _ found, sameRow⟩
  | cons_right rest inductionHypothesis =>
    obtain ⟨origin, found, sameRow⟩ := inductionHypothesis member
    exact ⟨origin, List.mem_cons_of_mem _ found, sameRow⟩

/-- Operations that are changed in their rows stay in order. -/
theorem map {change : Operation → Operation} (same : ∀ row ∈ rows, SameRow row (change row)) :
    InRowsOf (rows.map change) rows := by
  refine List.sublistForall₂_iff.mpr ⟨rows, ?_, List.Sublist.refl rows⟩
  exact List.forall₂_map_left_iff.mpr (List.forall₂_same.mpr same)

/-- What is appended to both stays behind. -/
theorem append (within : InRowsOf rows origins) (more : List Operation) :
    InRowsOf (rows ++ more) (origins ++ more) := by
  obtain ⟨kept, same, fewer⟩ := List.sublistForall₂_iff.mp within
  exact List.sublistForall₂_iff.mpr
    ⟨kept ++ more, List.rel_append same (List.forall₂_same.mpr fun row _ => SameRow.refl row),
      fewer.append_right more⟩

end InRowsOf

end Operation

namespace Store

/-! ### Calls -/

/-- The calls that change a store. -/
inductive Call where
  | edit (mutation : Mutation) (now : Instant)
  | enqueue (mutation : Mutation) (now : Instant)
  | completePush (sent : Operation) (body : Option Document) (header : Option String)
      (now : Instant)
  | settleWithServer (sent : Operation) (body : Option Document) (now : Instant)
  | recordFailure (sent : Operation) (status : Option Int) (reason : String) (now : Instant)
  | applyRow (table : String) (row : Document) (tokenKey : String)
  | purgeCompleted
  | purgeTable (table : String) (discard : Bool)
  | advanceWatermark (tokenKey : String) (instant : Instant)
  | resetWatermark (tokenKey : String)
  | resetTable (table : String)

/-- The store that an accepted call leads to. -/
def perform (store : Store) : Call → Except StoreError Store
  | .edit mutation now => (store.recordLocalMutation mutation now).map Prod.snd
  | .enqueue mutation now => (store.enqueue mutation now).map Prod.snd
  | .completePush sent body header now => (store.completePush sent body header now).map Prod.snd
  | .settleWithServer sent body now => (store.settleWithServer sent body now).map Prod.snd
  | .recordFailure sent status reason now =>
    (store.recordFailure sent status reason now).map Prod.snd
  | .applyRow table row tokenKey => (store.applyRemoteRow table row tokenKey).map Prod.snd
  | .purgeCompleted => .ok store.purgeCompleted.2
  | .purgeTable table discard => .ok (store.purgeTable table discard).2
  | .advanceWatermark tokenKey instant => .ok (store.advanceWatermark tokenKey instant).2
  | .resetWatermark tokenKey => .ok (store.resetWatermark tokenKey).2
  | .resetTable table => .ok (store.resetTableWatermarks table).2

/-- The store after a call; a refused call leaves it as it was. -/
def attempt (store : Store) (call : Call) : Store :=
  match store.perform call with
  | .ok next => next
  | .error _ => store

/-- The store after calls, one after the other, each by `attempt`. -/
def attemptAll (store : Store) (calls : List Call) : Store :=
  calls.foldl attempt store

/-- The operations that a store has under identities which an earlier one did not have. -/
def newRows (before after : Store) : List Operation :=
  after.queue.filter fun row => (before.operation? row.id).isNone

/-- The operations that calls create, each as it was first queued (`newRows`). -/
def created (store : Store) : List Call → List Operation
  | [] => []
  | call :: rest => newRows store (store.attempt call) ++ created (store.attempt call) rest

variable {store next before middle after : Store} {call : Call} {rows : List Operation}

/-- The accepted calls, those that `perform`, are the steps from one store to the next. -/
theorem step_iff_perform : Step store next ↔ ∃ call, store.perform call = .ok next := by
  constructor
  · intro step
    cases step with
    | edited recorded => exact ⟨.edit _ _, map_eq_ok.mpr ⟨_, recorded, rfl⟩⟩
    | enqueued queued => exact ⟨.enqueue _ _, map_eq_ok.mpr ⟨_, queued, rfl⟩⟩
    | pushed completed => exact ⟨.completePush _ _ _ _, map_eq_ok.mpr ⟨_, completed, rfl⟩⟩
    | conceded settled => exact ⟨.settleWithServer _ _ _, map_eq_ok.mpr ⟨_, settled, rfl⟩⟩
    | failed noted => exact ⟨.recordFailure _ _ _ _, map_eq_ok.mpr ⟨_, noted, rfl⟩⟩
    | pulled applied => exact ⟨.applyRow _ _ _, map_eq_ok.mpr ⟨_, applied, rfl⟩⟩
    | cleared => exact ⟨.purgeCompleted, rfl⟩
    | purged table discard => exact ⟨.purgeTable table discard, rfl⟩
    | advanced tokenKey instant => exact ⟨.advanceWatermark tokenKey instant, rfl⟩
    | reset tokenKey => exact ⟨.resetWatermark tokenKey, rfl⟩
    | resetTable table => exact ⟨.resetTable table, rfl⟩
  · rintro ⟨call, performed⟩
    cases call with
    | edit mutation now =>
      obtain ⟨⟨_, _⟩, recorded, rfl⟩ := map_eq_ok.mp performed
      exact .edited recorded
    | enqueue mutation now =>
      obtain ⟨⟨_, _⟩, queued, rfl⟩ := map_eq_ok.mp performed
      exact .enqueued queued
    | completePush sent body header now =>
      obtain ⟨⟨_, _⟩, completed, rfl⟩ := map_eq_ok.mp performed
      exact .pushed completed
    | settleWithServer sent body now =>
      obtain ⟨⟨_, _⟩, settled, rfl⟩ := map_eq_ok.mp performed
      exact .conceded settled
    | recordFailure sent status reason now =>
      obtain ⟨⟨_, _⟩, noted, rfl⟩ := map_eq_ok.mp performed
      exact .failed noted
    | applyRow table row tokenKey =>
      obtain ⟨⟨_, _⟩, applied, rfl⟩ := map_eq_ok.mp performed
      exact .pulled applied
    | purgeCompleted => cases performed; exact .cleared
    | purgeTable table discard => cases performed; exact .purged table discard
    | advanceWatermark tokenKey instant => cases performed; exact .advanced tokenKey instant
    | resetWatermark tokenKey => cases performed; exact .reset tokenKey
    | resetTable table => cases performed; exact .resetTable table

/-! ### One call -/

/-- What a call does to the queue: it keeps operations in their rows, or appends one with
the next number. -/
inductive Numbers (before after : Store) : List Operation → Prop where
  | kept (counter : after.lastSequence = before.lastSequence)
      (within : Operation.InRowsOf after.queue before.queue) : Numbers before after []
  | created {row : Operation} (number : row.sequence = before.lastSequence + 1)
      (named : row.id = Operation.idOfSequence row.sequence)
      (counter : after.lastSequence = before.lastSequence + 1)
      (appended : after.queue = before.queue ++ [row]) : Numbers before after [row]

namespace Numbers

theorem of_sublist (counter : after.lastSequence = before.lastSequence)
    (fewer : after.queue.Sublist before.queue) : Numbers before after [] :=
  .kept counter (.of_sublist fewer)

theorem of_same (queue : after.queue = before.queue)
    (counter : after.lastSequence = before.lastSequence) : Numbers before after [] :=
  .of_sublist counter (queue ▸ List.Sublist.refl _)

/-- What is written to the local copies afterwards does not matter. -/
theorem differsInCopies (numbers : Numbers before middle rows)
    (differs : DiffersInCopies middle after) : Numbers before after rows := by
  cases numbers with
  | kept counter within =>
    exact .kept (differs.lastSequence.trans counter) (differs.queue ▸ within)
  | created number named counter appended =>
    exact .created number named (differs.lastSequence.trans counter) (differs.queue.trans appended)

/-- A call that updates operations in their rows. -/
theorem of_updateOperation {id : String} {change : Operation → Operation}
    (same : ∀ row, Operation.SameRow row (change row)) :
    Numbers store (store.updateOperation id change) [] := by
  refine .kept rfl (Operation.InRowsOf.map fun row _ => ?_)
  split
  · exact same row
  · exact .refl row

theorem of_replaceOperation (operation : Operation) :
    Numbers store (store.replaceOperation operation) [] :=
  of_updateOperation fun _ => ⟨rfl, rfl, rfl, rfl, rfl, rfl⟩

/-- The rows that a call creates are those under new identities: `newRows` finds them. -/
theorem newRows_eq (numbers : Numbers before after rows) (sound : before.QueueSound) :
    newRows before after = rows := by
  have old {row : Operation} (queued : row ∈ before.queue) :
      before.operation? row.id = some row := sound.operation?_eq_some.mpr ⟨queued, rfl⟩
  unfold newRows
  cases numbers with
  | kept counter within =>
    refine List.filter_eq_nil_iff.mpr fun row queued => ?_
    obtain ⟨origin, member, same⟩ := within.exists_origin queued
    rw [same.id, old member]
    simp
  | @created row number named counter appended =>
    have others : before.queue.filter (fun row => (before.operation? row.id).isNone) = [] :=
      List.filter_eq_nil_iff.mpr fun row queued => by simp [old queued]
    have fresh : before.operation? row.id = none := sound.fresh number named
    rw [appended, List.filter_append, others]
    simp [fresh]

end Numbers

/-! ### What each call does -/

section Calls

variable {mutation : Mutation} {now : Instant} {sent : Operation} {document : Document}
  {metadata : EntityMetadata} {body : Option Document} {version : Option String}
  {settlement : Settlement}

/-- A queued edit takes a number if it creates an operation, and none if it is merged or cancels
one: the cases of `Numbers`. -/
theorem Enqueues.numbers (enqueues : store.Enqueues mutation now next) :
    ∃ rows, Numbers store next rows := by
  cases enqueues with
  | created free => exact ⟨_, .created rfl rfl rfl rfl⟩
  | merged found transition => exact ⟨_, .of_replaceOperation _⟩
  | cancelled found creates deletes => exact ⟨_, .of_sublist rfl List.filter_sublist⟩

theorem numbers_rebase {operation : Operation} {kind : OperationKind}
    (rebased : store.rebase operation kind version = .ok next) : Numbers store next [] :=
  (Numbers.of_replaceOperation _).differsInCopies (differs_rebase rebased)

/-- A success takes a number only to remove what was created although it was undone. -/
theorem CompletesPush.numbers
    (completes : store.CompletesPush sent body version now settlement next) :
    ∃ rows, Numbers store next rows := by
  cases completes with
  | rebased found newer rebased => exact ⟨_, numbers_rebase rebased⟩
  | settled found same adopts =>
    have differs := differs_adoptAnswer adopts
    refine ⟨_, .of_sublist differs.lastSequence ?_⟩
    exact differs.queue ▸ List.filter_sublist
  | vanished gone keeps => exact ⟨_, .of_same rfl rfl⟩
  | recreated gone creates found rebased => exact ⟨_, numbers_rebase rebased⟩
  | undone gone creates free => exact ⟨_, .created rfl rfl rfl rfl⟩

theorem numbers_markCompleted (differs : DiffersInCopies store middle) (id : String) :
    Numbers store (middle.markCompleted id now) [] := by
  have marks : Numbers middle (middle.markCompleted id now) [] :=
    .of_updateOperation fun _ => ⟨rfl, rfl, rfl, rfl, rfl, rfl⟩
  cases marks with
  | kept counter within => exact .kept (counter.trans differs.lastSequence) (differs.queue ▸ within)

theorem SettlesWithServer.numbers
    (settles : store.SettlesWithServer sent document metadata now settlement next) :
    Numbers store next [] := by
  cases settles with
  | rebased found newer rebased => exact numbers_rebase rebased
  | removed found same deleted => exact numbers_markCompleted differs_removeEntity _
  | adopted found same live merges => exact numbers_markCompleted (differs_mergeEntity merges) _
  | vanished gone => exact .of_same rfl rfl

theorem RecordsFailure.numbers {status : Option Int} {reason : String} {marked : Bool}
    (records : store.RecordsFailure sent status reason now marked next) : Numbers store next [] := by
  cases records with
  | unmarked changed => exact .of_same rfl rfl
  | marked found same alone => exact .of_updateOperation fun _ => ⟨rfl, rfl, rfl, rfl, rfl, rfl⟩

/-- Every accepted call takes the next number for an operation that it appends, or takes none
(`Numbers`). -/
theorem Step.numbers (step : Step store next) : ∃ rows, Numbers store next rows := by
  cases step with
  | edited recorded =>
    obtain ⟨queued, enqueues, writes⟩ := recordLocalMutation_eq_ok recorded
    obtain ⟨rows, numbers⟩ := enqueues.numbers
    exact ⟨rows, numbers.differsInCopies writes.differsInCopies⟩
  | enqueued queued => exact (enqueues_of_enqueue queued).numbers
  | pushed completed => exact (completesPush_of_completePush completed).numbers
  | conceded settled =>
    obtain ⟨document, metadata, -, settles⟩ := settlesWithServer_of_settleWithServer settled
    exact ⟨_, settles.numbers⟩
  | failed noted => exact ⟨_, (recordsFailure_of_recordFailure noted).numbers⟩
  | pulled applied =>
    obtain ⟨queue, counter⟩ := queue_of_applyRemoteRow applied
    exact ⟨_, .of_same queue counter⟩
  | cleared => exact ⟨_, .of_sublist rfl List.filter_sublist⟩
  | purged table discard =>
    cases discard with
    | true => exact ⟨_, .of_sublist rfl List.filter_sublist⟩
    | false => exact ⟨_, .of_same rfl rfl⟩
  | advanced tokenKey instant => exact ⟨_, .of_same (by simp) (by simp)⟩
  | reset tokenKey => exact ⟨_, .of_same rfl rfl⟩
  | resetTable table => exact ⟨_, .of_same rfl rfl⟩

end Calls

/-! ### Runs -/

/-- Every call, accepted or refused, keeps the queue sound. -/
theorem QueueSound.attempt (sound : store.QueueSound) (call : Call) :
    (store.attempt call).QueueSound := by
  unfold Store.attempt
  split
  · rename_i performed
    exact (step_iff_perform.mpr ⟨call, performed⟩).queueSound sound
  · exact sound

/-- Every call, accepted or refused, takes the numbers of the rows that it creates. -/
theorem QueueSound.numbers_attempt (sound : store.QueueSound) (call : Call) :
    Numbers store (store.attempt call) (newRows store (store.attempt call)) := by
  have taken : ∃ rows, Numbers store (store.attempt call) rows := by
    unfold Store.attempt
    split
    · rename_i performed
      exact (step_iff_perform.mpr ⟨call, performed⟩).numbers
    · exact ⟨_, .of_same rfl rfl⟩
  obtain ⟨rows, numbers⟩ := taken
  exact numbers.newRows_eq sound ▸ numbers

/-- What calls have done to the queue: the numbers of the operations that they created
follow each other, and what is queued stands in the rows of those that were queued before
or created since, in their order. -/
structure Continues (before : Store) (rows : List Operation) (after : Store) : Prop where
  numbers : rows.map (·.sequence) =
    (List.range rows.length).map fun (count : Nat) => before.lastSequence + 1 + count
  counter : after.lastSequence = before.lastSequence + rows.length
  order : Operation.InRowsOf after.queue (before.queue ++ rows)

/-- One call `Continues` the numbering. -/
theorem Numbers.continues (numbers : Numbers before after rows) : Continues before rows after := by
  cases numbers with
  | kept counter within =>
    exact ⟨rfl, by simpa using counter, by simpa using within⟩
  | created number named counter appended =>
    exact ⟨by simp [number], by simpa using counter, appended ▸ .refl _⟩

/-- Calls that follow continue the numbering. -/
theorem Continues.trans {more : List Operation} (first : Continues before rows middle)
    (second : Continues middle more after) : Continues before (rows ++ more) after where
  numbers := by
    rw [List.map_append, first.numbers, second.numbers, first.counter, List.length_append,
      List.range_add, List.map_append, List.map_map]
    congr 1
    refine List.map_congr_left fun count _ => ?_
    simp only [Function.comp_apply]
    omega
  counter := by
    rw [second.counter, first.counter, List.length_append]
    omega
  order := by
    rw [← List.append_assoc]
    exact second.order.trans (first.order.append more)

/-- However many calls are made by `attemptAll`, accepted or refused, they continue the
numbering. -/
theorem QueueSound.continues (sound : store.QueueSound) (calls : List Call) :
    Continues store (store.created calls) (store.attemptAll calls) := by
  induction calls generalizing store with
  | nil => exact (Numbers.of_same rfl rfl).continues
  | cons call rest inductionHypothesis =>
    exact (sound.numbers_attempt call).continues.trans (inductionHypothesis (sound.attempt call))

end Store

end OfflineSync
