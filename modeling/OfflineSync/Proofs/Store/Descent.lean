import Mathlib.Logic.Relation
import OfflineSync.Proofs.Store.InFlight

/-!
# Operations stay in their rows

Calls move no operation to another row: what is queued later stands in a row that was there before,
or in one that was numbered since. That is what `Descends` says of two stores, and `Step.descends`
of every call. So a push result that comes late finds the entity that was sent, or nothing. An
operation that is open stays open, until a conflict about it is conceded.
-/

namespace OfflineSync.Store

/-- Whether each operation that is queued stands in a row of an earlier store, or in one
that was numbered since. Where an operation was open, it is open still, or its identity
is one that was closed. -/
structure Descends (closes : String → Prop) (before after : Store) : Prop where
  counter : before.lastSequence ≤ after.lastSequence
  rows : ∀ row ∈ after.queue, before.lastSequence < row.sequence ∨
    ∃ present ∈ before.queue, Operation.SameRow present row ∧
      (present.isOpen → row.isOpen ∨ closes row.id)

/-- An operation that is queued bears an identity that was `HandedOut`. -/
theorem QueueSound.handedOut {store : Store} {operation : Operation} (sound : store.QueueSound)
    (queued : operation ∈ store.queue) : store.HandedOut operation :=
  ⟨sound.named operation queued, (sound.numbered operation queued).1,
    (sound.numbered operation queued).2⟩

namespace Descends

variable {closes : String → Prop} {before middle after : Store} {sent row : Operation}

/-- A later queue whose operations were queued before, as they are. -/
theorem of_subset (counter : before.lastSequence ≤ after.lastSequence)
    (subset : ∀ row ∈ after.queue, row ∈ before.queue) : Descends closes before after where
  counter := counter
  rows := fun row queued => .inr ⟨row, subset row queued, .refl row, .inl⟩

theorem refl (store : Store) : Descends closes store store :=
  of_subset (Int.le_refl _) fun _ => id

/-- Rows are followed through one store to the next, by `SameRow.trans`. -/
theorem trans (first : Descends closes before middle) (second : Descends closes middle after) :
    Descends closes before after where
  counter := Int.le_trans first.counter second.counter
  rows := by
    intro row queued
    rcases second.rows row queued with newer | ⟨present, presentQueued, same, stays⟩
    · exact .inl (Int.lt_of_le_of_lt first.counter newer)
    · rcases first.rows present presentQueued with newer | ⟨origin, originQueued, earlier, stayed⟩
      · exact .inl (same.sequence ▸ newer)
      · refine .inr ⟨origin, originQueued, earlier.trans same, fun isOpen => ?_⟩
        rcases stayed isOpen with presentOpen | closed
        · exact stays presentOpen
        · exact .inr (same.id ▸ closed)

/-- No row is lost by closing more. -/
theorem mono {more : String → Prop} (descends : Descends closes before after)
    (closed : ∀ id, closes id → more id) : Descends more before after where
  counter := descends.counter
  rows := by
    intro row queued
    refine (descends.rows row queued).imp_right ?_
    rintro ⟨present, presentQueued, same, stays⟩
    exact ⟨present, presentQueued, same, fun isOpen => (stays isOpen).imp_right (closed row.id)⟩

/-- An identity that was handed out finds the row that it found earlier. -/
theorem operation? (descends : Descends closes before after) (sound : before.QueueSound)
    (afterSound : after.QueueSound) (handedOut : before.HandedOut sent)
    (found : after.operation? sent.id = some row) :
    ∃ present, before.operation? sent.id = some present ∧ Operation.SameRow present row ∧
      (present.isOpen → row.isOpen ∨ closes sent.id) := by
  obtain ⟨queued, named⟩ := mem_of_operation? found
  have numbers : row.sequence = sent.sequence := by
    have positive := handedOut.positive
    have bounds := afterSound.numbered row queued
    rw [handedOut.named, afterSound.named row queued] at named
    exact Operation.idOfSequence_injective (by omega) (by omega) named
  rcases descends.rows row queued with newer | ⟨present, presentQueued, same, stays⟩
  · have numbered := handedOut.numbered
    omega
  · refine ⟨present, sound.operation?_eq_some.mpr ⟨presentQueued, ?_⟩, same, named ▸ stays⟩
    exact same.id.symm.trans named

/-- An identity that was handed out stays so. -/
theorem handedOut (descends : Descends closes before after) (handedOut : before.HandedOut sent) :
    after.HandedOut sent :=
  ⟨handedOut.named, handedOut.positive, Int.le_trans handedOut.numbered descends.counter⟩

/-- An operation that was queued is found in its row, if it is found. -/
theorem sameRow (descends : Descends closes before after) (sound : before.QueueSound)
    (afterSound : after.QueueSound) (queued : sent ∈ before.queue)
    (found : after.operation? sent.id = some row) : Operation.SameRow sent row := by
  obtain ⟨present, held, same, -⟩ :=
    descends.operation? sound afterSound (sound.handedOut queued) found
  cases held.symm.trans (sound.operation?_eq_some.mpr ⟨queued, rfl⟩)
  exact same

end Descends

variable {closes : String → Prop} {store next before during : Store} {sent operation present : Operation}
  {now : Instant} {settlement : Settlement}

/-! ### Changes of the queue -/

theorem DiffersInCopies.descends (differs : DiffersInCopies store next) :
    Descends closes store next :=
  .of_subset (Int.le_of_eq differs.lastSequence.symm) fun _ queued => differs.queue ▸ queued

/-- An operation with the next number, queued by `appendOperation`, stands in a row of its own. -/
theorem descends_appendOperation (number : operation.sequence = store.lastSequence + 1) :
    Descends closes store (store.appendOperation operation) where
  counter := by
    simp only [appendOperation]
    omega
  rows := by
    intro row queued
    rcases List.mem_append.mp queued with old | new
    · exact .inr ⟨row, old, .refl row, .inl⟩
    · cases List.mem_singleton.mp new
      exact .inl (by omega)

theorem descends_removeOperation (id : String) : Descends closes store (store.removeOperation id) :=
  .of_subset (Int.le_refl _) fun _ remaining => (mem_removeOperation.mp remaining).1

/-- An operation is updated in its row: `updateOperation` keeps identity and number. -/
theorem descends_updateOperation {id : String} {change : Operation → Operation}
    (keeps : ∀ present ∈ store.queue, present.id = id → Operation.SameRow present (change present))
    (stays : ∀ present ∈ store.queue, present.id = id → present.isOpen →
      (change present).isOpen ∨ closes id) :
    Descends closes store (store.updateOperation id change) where
  counter := Int.le_refl _
  rows := by
    intro row queued
    obtain ⟨present, presentQueued, rfl⟩ := mem_updateOperation.mp queued
    refine .inr ⟨present, presentQueued, ?_⟩
    by_cases named : present.id = id
    · have same := keeps present presentQueued named
      rw [if_pos (by simpa using named), same.id, named]
      exact ⟨same, stays present presentQueued named⟩
    · rw [if_neg (by simpa using named)]
      exact ⟨.refl present, .inl⟩

/-- An operation that is open is revised in its row by `replaceOperation`. -/
theorem descends_replaceOperation (sound : store.QueueSound) (queued : present ∈ store.queue)
    (revises : operation.Revises present) (stays : present.isOpen → operation.isOpen) :
    Descends closes store (store.replaceOperation operation) := by
  refine descends_updateOperation (fun _ _ _ => ⟨rfl, rfl, rfl, rfl, rfl, rfl⟩) ?_
  intro other otherQueued named isOpen
  cases sound.eq_of_id otherQueued queued (named.trans revises.sameRow.id)
  exact .inl (stays isOpen)

/-! ### Calls -/

/-- A queued edit (`Enqueues`) leaves what is open open. -/
theorem Enqueues.descends {mutation : Mutation} (enqueues : store.Enqueues mutation now next)
    (sound : store.QueueSound) : Descends closes store next := by
  cases enqueues with
  | created free => exact descends_appendOperation rfl
  | merged found transition =>
    exact descends_replaceOperation sound (mem_of_openOperation? found).1
      (Operation.revises_merge _ _ _) fun _ => rfl
  | cancelled found creates deletes => exact descends_removeOperation _

/-- An accepted edit leaves what is open open. -/
theorem descends_recordLocalMutation {mutation : Mutation} {outcome : EnqueueOutcome}
    (recorded : store.recordLocalMutation mutation now = .ok (outcome, next))
    (sound : store.QueueSound) : Descends closes store next := by
  obtain ⟨queued, enqueues, writes⟩ := recordLocalMutation_eq_ok recorded
  exact (enqueues.descends sound).trans writes.differsInCopies.descends

/-- A rebased operation is as open as it was. -/
theorem descends_rebase {kind : OperationKind} {version : Option String} (sound : store.QueueSound)
    (queued : present ∈ store.queue) (rebased : store.rebase present kind version = .ok next) :
    Descends closes store next :=
  (descends_replaceOperation sound queued (Operation.revises_rebase _ _ _) id).trans
    (differs_rebase rebased).descends

/-- A success (`CompletesPush`) leaves what is open open. -/
theorem CompletesPush.descends {body : Option Document} {version : Option String}
    (completes : store.CompletesPush sent body version now settlement next)
    (sound : store.QueueSound) : Descends closes store next := by
  cases completes with
  | rebased found newer rebased => exact descends_rebase sound (mem_of_operation? found).1 rebased
  | settled found same adopts =>
    exact (differs_adoptAnswer adopts).descends.trans (descends_removeOperation _)
  | vanished gone keeps => exact .refl store
  | recreated gone creates found rebased =>
    exact descends_rebase sound (mem_of_openOperation? found).1 rebased
  | undone gone creates free => exact descends_appendOperation rfl

/-- A closed operation is closed in its row. -/
theorem descends_markCompleted (id : String) :
    Descends (· = id) store (store.markCompleted id now) :=
  descends_updateOperation (fun _ _ _ => ⟨rfl, rfl, rfl, rfl, rfl, rfl⟩) fun _ _ _ _ => .inr rfl

/-- A conceded conflict closes nothing but the operation sent. -/
theorem SettlesWithServer.descends {document : Document} {metadata : EntityMetadata}
    (settles : store.SettlesWithServer sent document metadata now settlement next)
    (sound : store.QueueSound) : Descends (· = sent.id) store next := by
  cases settles with
  | rebased found newer rebased => exact descends_rebase sound (mem_of_operation? found).1 rebased
  | removed found same deleted =>
    exact differs_removeEntity.descends.trans (descends_markCompleted _)
  | adopted found same live merges =>
    exact (differs_mergeEntity merges).descends.trans (descends_markCompleted _)
  | vanished gone => exact .refl store

/-- A failure is noted on an operation that is open. -/
theorem RecordsFailure.descends {status : Option Int} {reason : String} {marked : Bool}
    (records : store.RecordsFailure sent status reason now marked next) :
    Descends closes store next := by
  cases records with
  | unmarked changed => exact .refl store
  | marked found same alone =>
    exact descends_updateOperation (fun _ _ _ => ⟨rfl, rfl, rfl, rfl, rfl, rfl⟩) fun _ _ _ _ => .inl rfl

/-- Every call leaves operations in their rows: the store `Descends`, with the closed identity
named. -/
theorem Step.descends (call : Step store next) (sound : store.QueueSound) :
    Descends (fun _ => True) store next := by
  cases call with
  | edited recorded => exact descends_recordLocalMutation recorded sound
  | enqueued queued => exact (enqueues_of_enqueue queued).descends sound
  | pushed completed => exact (completesPush_of_completePush completed).descends sound
  | conceded settled =>
    obtain ⟨document, metadata, -, settles⟩ := settlesWithServer_of_settleWithServer settled
    exact (settles.descends sound).mono fun _ _ => trivial
  | failed noted => exact (recordsFailure_of_recordFailure noted).descends
  | pulled applied =>
    obtain ⟨queue, counter⟩ := queue_of_applyRemoteRow applied
    exact .of_subset (Int.le_of_eq counter.symm) fun row queued => queue ▸ queued
  | cleared => exact .of_subset (Int.le_refl _) fun row queued => (List.mem_filter.mp queued).1
  | purged table discard =>
    cases discard with
    | true => exact .of_subset (Int.le_refl _) fun row queued => (List.mem_filter.mp queued).1
    | false => exact .of_subset (Int.le_refl _) fun row queued => queued
  | advanced tokenKey instant =>
    exact .of_subset (by simp) fun row queued => by simpa using queued
  | reset tokenKey => exact .of_subset (Int.le_refl _) fun row queued => queued
  | resetTable table => exact .of_subset (Int.le_refl _) fun row queued => queued

/-- However many calls follow (`Leads`), a sound queue stays sound, and its operations stay in
their rows. -/
theorem descends_of_leads (leads : Relation.ReflTransGen Step before during)
    (sound : before.QueueSound) :
    during.QueueSound ∧ Descends (fun _ => True) before during := by
  induction leads with
  | refl => exact ⟨sound, .refl before⟩
  | tail earlier call inductionHypothesis =>
    obtain ⟨middleSound, descends⟩ := inductionHypothesis
    exact ⟨call.queueSound middleSound, descends.trans (call.descends middleSound)⟩

end OfflineSync.Store
