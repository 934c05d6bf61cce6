import OfflineSync.Proofs.Store.Placements
import OfflineSync.Proofs.Store.Settlements

/-!
# Reachable stores

A store is `Reachable` when calls lead to it from the empty one. A call, `Store.Step`, may have any
arguments: a push result may be about an operation that was never queued. Every call changes the
queue in one of the sound ways, so a reachable store has a sound queue, `Reachable.queueSound`.
-/

namespace OfflineSync.Store

/-- The calls that lead from one store to the next. -/
inductive Step (store : Store) : Store → Prop where
  | edited {mutation : Mutation} {now : Instant} {outcome : EnqueueOutcome} {next : Store}
      (recorded : store.recordLocalMutation mutation now = .ok (outcome, next)) : Step store next
  | enqueued {mutation : Mutation} {now : Instant} {outcome : EnqueueOutcome} {next : Store}
      (queued : store.enqueue mutation now = .ok (outcome, next)) : Step store next
  | pushed {sent : Operation} {body : Option Document} {header : Option String} {now : Instant}
      {settlement : Settlement} {next : Store}
      (completed : store.completePush sent body header now = .ok (settlement, next)) :
      Step store next
  | conceded {sent : Operation} {body : Option Document} {now : Instant}
      {settlement : Settlement} {next : Store}
      (settled : store.settleWithServer sent body now = .ok (settlement, next)) : Step store next
  | failed {sent : Operation} {status : Option Int} {reason : String} {now : Instant}
      {marked : Bool} {next : Store}
      (noted : store.recordFailure sent status reason now = .ok (marked, next)) : Step store next
  | pulled {table tokenKey : String} {row : Document} {outcome : RowOutcome} {next : Store}
      (applied : store.applyRemoteRow table row tokenKey = .ok (outcome, next)) : Step store next
  | cleared : Step store store.purgeCompleted.2
  | purged (table : String) (discard : Bool) : Step store (store.purgeTable table discard).2
  | advanced (tokenKey : String) (instant : Instant) :
      Step store (store.advanceWatermark tokenKey instant).2
  | reset (tokenKey : String) : Step store (store.resetWatermark tokenKey).2
  | resetTable (table : String) : Step store (store.resetTableWatermarks table).2

/-- The stores that calls (`Step`) lead to from the empty one. -/
inductive Reachable : Store → Prop where
  | empty : Reachable empty
  | step {store next : Store} (earlier : Reachable store) (call : Step store next) : Reachable next

variable {store next : Store} {sent : Operation} {body : Option Document} {version : Option String}
  {now : Instant} {settlement : Settlement}

/-- Local copies and watermarks have no part in a sound queue. -/
theorem QueueSound.of_same (sound : store.QueueSound) (queue : next.queue = store.queue)
    (counter : next.lastSequence = store.lastSequence) : next.QueueSound :=
  sound.of_sublist (queue ▸ List.Sublist.refl _) counter

theorem DiffersInCopies.queueSound (differs : DiffersInCopies store next)
    (sound : store.QueueSound) : next.QueueSound :=
  sound.of_same differs.queue differs.lastSequence

/-- Rebasing an open operation leaves the queue sound: `rebase` revises it in its row. -/
theorem QueueSound.rebase {current : Operation} {kind : OperationKind} (sound : store.QueueSound)
    (queued : current ∈ store.queue) (rebased : store.rebase current kind version = .ok next) :
    next.QueueSound :=
  (differs_rebase rebased).queueSound
    (sound.replaceOperation queued (Operation.revises_rebase _ _ _) id)

theorem CompletesPush.queueSound (completes : store.CompletesPush sent body version now settlement next)
    (sound : store.QueueSound) : next.QueueSound := by
  cases completes with
  | rebased found newer rebased => exact sound.rebase (mem_of_operation? found).1 rebased
  | settled found same adopts =>
    exact ((differs_adoptAnswer adopts).queueSound sound).removeOperation _
  | vanished gone keeps => exact sound
  | recreated gone creates found rebased =>
    exact sound.rebase (mem_of_openOperation? found).1 rebased
  | undone gone creates free => exact sound.appendOperation rfl rfl free

/-- Closing an operation by `markCompleted` leaves the queue sound. -/
theorem QueueSound.markCompleted (sound : store.QueueSound) (id : String) :
    (store.markCompleted id now).QueueSound :=
  sound.updateOperation (fun _ _ _ => ⟨rfl, rfl, rfl, rfl, rfl, rfl⟩)
    fun _ _ _ isOpen => absurd isOpen (by simp [Operation.isOpen])

theorem SettlesWithServer.queueSound {document : Document} {metadata : EntityMetadata}
    (settles : store.SettlesWithServer sent document metadata now settlement next)
    (sound : store.QueueSound) : next.QueueSound := by
  cases settles with
  | rebased found newer rebased => exact sound.rebase (mem_of_operation? found).1 rebased
  | removed found same deleted => exact (differs_removeEntity.queueSound sound).markCompleted _
  | adopted found same live merges =>
    exact ((differs_mergeEntity merges).queueSound sound).markCompleted _
  | vanished gone => exact sound

theorem RecordsFailure.queueSound {status : Option Int} {reason : String} {marked : Bool}
    (records : store.RecordsFailure sent status reason now marked next)
    (sound : store.QueueSound) : next.QueueSound := by
  cases records with
  | unmarked changed => exact sound
  | marked found same alone =>
    refine sound.updateOperation (fun _ _ _ => ⟨rfl, rfl, rfl, rfl, rfl, rfl⟩) ?_
    intro present queued named _
    cases sound.eq_of_id queued (mem_of_operation? found).1
      (named.trans (mem_of_operation? found).2.symm)
    exact .inr alone

/-- Every call leaves the queue sound (`QueueSound`). -/
theorem Step.queueSound (call : Step store next) (sound : store.QueueSound) : next.QueueSound := by
  cases call with
  | edited recorded =>
    obtain ⟨queued, enqueues, writes⟩ := recordLocalMutation_eq_ok recorded
    exact writes.differsInCopies.queueSound (enqueues.queueSound sound)
  | enqueued queued => exact (enqueues_of_enqueue queued).queueSound sound
  | pushed completed => exact (completesPush_of_completePush completed).queueSound sound
  | conceded settled =>
    obtain ⟨document, metadata, -, settles⟩ := settlesWithServer_of_settleWithServer settled
    exact settles.queueSound sound
  | failed noted => exact (recordsFailure_of_recordFailure noted).queueSound sound
  | pulled applied =>
    obtain ⟨queue, counter⟩ := queue_of_applyRemoteRow applied
    exact sound.of_same queue counter
  | cleared => exact sound.of_sublist List.filter_sublist rfl
  | purged table discard =>
    cases discard with
    | true => exact sound.of_sublist List.filter_sublist rfl
    | false => exact sound.of_same rfl rfl
  | advanced tokenKey instant => exact sound.of_same (by simp) (by simp)
  | reset tokenKey => exact sound.of_same rfl rfl
  | resetTable table => exact sound.of_same rfl rfl

/-- A reachable store has a sound queue. -/
theorem Reachable.queueSound (reachable : Reachable store) : store.QueueSound := by
  induction reachable with
  | empty => exact queueSound_empty
  | step earlier call inductionHypothesis => exact call.queueSound inductionHypothesis

end OfflineSync.Store
