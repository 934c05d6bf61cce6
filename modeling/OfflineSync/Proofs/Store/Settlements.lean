import OfflineSync.Proofs.Store.Edits

/-!
# What a push result does

A push result finds the operation that was sent, or finds it changed or gone. The relations here,
`CompletesPush`, `SettlesWithServer` and `RecordsFailure`, list the outcomes of the three calls that
settle an operation, each with what the call has checked. Later modules take a call apart by
`completesPush_of_completePush` and its siblings, and look no more at the code.
-/

namespace OfflineSync.Store

variable {store next : Store} {operation sent current : Operation} {body : Option Document}
  {header version : Option String} {now : Instant} {settlement : Settlement}

/-- An operation is rebased in the queue alone where it removes its entity, and else
together with the version of the local copy. -/
theorem rebase_eq_ok {kind : OperationKind} :
    store.rebase operation kind version = .ok next ↔
      ((operation.rebase kind version).kind = .delete ∧
          store.replaceOperation (operation.rebase kind version) = next) ∨
        ((operation.rebase kind version).kind ≠ .delete ∧
          (store.replaceOperation (operation.rebase kind version)).setEntityVersion
            ⟨operation.table, operation.itemId⟩ (operation.rebase kind version).entityVersion =
              .ok next) := by
  unfold rebase
  by_cases removes : (operation.rebase kind version).kind = .delete
  · simp [removes]
  · simp only [removes, if_false, false_and, false_or, ne_eq, not_false_eq_true, true_and]
    rfl

/-- Apart from the local copies, rebasing replaces one operation, by `replaceOperation`. -/
theorem differs_rebase {kind : OperationKind}
    (rebased : store.rebase operation kind version = .ok next) :
    DiffersInCopies (store.replaceOperation (operation.rebase kind version)) next := by
  rcases rebase_eq_ok.mp rebased with ⟨-, rfl⟩ | ⟨-, written⟩
  · exact .refl _
  · exact differs_setEntityVersion written

/-- What an answer says of an entity, `adoptAnswer` writes to the local copies alone. -/
theorem differs_adoptAnswer (adopted : store.adoptAnswer sent body version = .ok next) :
    DiffersInCopies store next := by
  unfold adoptAnswer at adopted
  split at adopted
  · cases adopted
    exact differs_removeEntity
  · exact differs_mergeEntity adopted
  · exact differs_mergeEntity adopted
  · exact differs_setEntityVersion adopted
  · cases adopted
    exact .refl store

/-- The outcomes of a successful push, with what was found of the operation sent. -/
inductive CompletesPush (store : Store) (sent : Operation) (body : Option Document)
    (version : Option String) (now : Instant) : Settlement → Store → Prop where
  /-- Edits were merged into the operation after it was sent. -/
  | rebased {current : Operation} {next : Store}
      (found : store.operation? sent.id = some current)
      (newer : current.revision ≠ sent.revision)
      (rebased : store.rebase current sent.kind version = .ok next) :
      CompletesPush store sent body version now .rebased next
  /-- The operation is as it was sent. -/
  | settled {current : Operation} {adopted : Store}
      (found : store.operation? sent.id = some current)
      (same : current.revision = sent.revision)
      (adopts : store.adoptAnswer sent body version = .ok adopted) :
      CompletesPush store sent body version now .settled (adopted.removeOperation sent.id)
  /-- The operation is gone, and the remote holds no more than it did. -/
  | vanished (gone : store.operation? sent.id = none) (keeps : sent.kind ≠ .add) :
      CompletesPush store sent body version now .vanished store
  /-- The creation was undone, and the entity created anew. -/
  | recreated {current : Operation} {next : Store}
      (gone : store.operation? sent.id = none) (creates : sent.kind = .add)
      (found : store.openOperation? sent.table sent.itemId = some current)
      (rebased : store.rebase current sent.kind version = .ok next) :
      CompletesPush store sent body version now .rebased next
  /-- The creation was undone, which the remote has yet to follow. -/
  | undone (gone : store.operation? sent.id = none) (creates : sent.kind = .add)
      (free : store.openOperation? sent.table sent.itemId = none) :
      CompletesPush store sent body version now .rebased
        (store.appendOperation
          (Operation.ofMutation (followUpDelete sent version) (store.lastSequence + 1) now))

/-- A success rebases the operation that newer edits were merged into. -/
theorem completePush_eq_rebased (found : store.operation? sent.id = some current)
    (newer : current.revision ≠ sent.revision)
    (rebased : store.rebase current sent.kind (answeredVersion body header) = .ok next) :
    store.completePush sent body header now = .ok (.rebased, next) := by
  unfold completePush
  simp only [found, newer, ne_eq, not_false_eq_true, if_true]
  exact bind_eq_ok.mpr ⟨next, rebased, rfl⟩

/-- A success settles the operation that is as it was sent. -/
theorem completePush_eq_settled {adopted : Store} (found : store.operation? sent.id = some current)
    (same : current.revision = sent.revision)
    (adopts : store.adoptAnswer sent body (answeredVersion body header) = .ok adopted) :
    store.completePush sent body header now = .ok (.settled, adopted.removeOperation sent.id) := by
  unfold completePush
  simp only [found, same, ne_eq, not_true_eq_false, if_false]
  exact bind_eq_ok.mpr ⟨adopted, adopts, rfl⟩

/-- A success rebases the operation that was created after the creation sent was undone. -/
theorem completePush_eq_recreated (gone : store.operation? sent.id = none)
    (creates : sent.kind = .add) (found : store.openOperation? sent.table sent.itemId = some current)
    (rebased : store.rebase current sent.kind (answeredVersion body header) = .ok next) :
    store.completePush sent body header now = .ok (.rebased, next) := by
  unfold completePush
  simp only [gone, creates, found, ne_eq, not_true_eq_false, if_false]
  rw [creates] at rebased
  exact bind_eq_ok.mpr ⟨next, rebased, rfl⟩

/-- A success queues the removal of an entity whose creation was undone, as `followUpDelete`. -/
theorem completePush_eq_undone (gone : store.operation? sent.id = none)
    (creates : sent.kind = .add) (free : store.openOperation? sent.table sent.itemId = none) :
    store.completePush sent body header now =
      .ok (.rebased, store.appendOperation (Operation.ofMutation
        (followUpDelete sent (answeredVersion body header)) (store.lastSequence + 1) now)) := by
  have enqueued : ∃ outcome, store.enqueue (followUpDelete sent (answeredVersion body header)) now =
      .ok (outcome, store.appendOperation (Operation.ofMutation
        (followUpDelete sent (answeredVersion body header)) (store.lastSequence + 1) now)) := by
    unfold enqueue followUpDelete
    rw [free]
    exact ⟨_, rfl⟩
  obtain ⟨outcome, enqueued⟩ := enqueued
  unfold completePush
  simp only [gone, creates, free, ne_eq, not_true_eq_false, if_false]
  exact bind_eq_ok.mpr ⟨_, enqueued, rfl⟩

/-- A completed push had one of the outcomes that `CompletesPush` lists. -/
theorem completesPush_of_completePush
    (completed : store.completePush sent body header now = .ok (settlement, next)) :
    store.CompletesPush sent body (answeredVersion body header) now settlement next := by
  unfold completePush at completed
  cases found : store.operation? sent.id with
  | some current =>
    simp only [found] at completed
    split at completed
    · rename_i newer
      obtain ⟨rebasedStore, rebased, same⟩ := bind_eq_ok.mp completed
      cases same
      exact .rebased found newer rebased
    · rename_i unchanged
      obtain ⟨adopted, adopts, same⟩ := bind_eq_ok.mp completed
      cases same
      exact .settled found (Decidable.of_not_not unchanged) adopts
  | none =>
    simp only [found] at completed
    split at completed
    · rename_i keeps
      cases completed
      exact .vanished found keeps
    · rename_i creates
      have creates : sent.kind = .add := Decidable.of_not_not creates
      cases free : store.openOperation? sent.table sent.itemId with
      | some current =>
        simp only [free] at completed
        obtain ⟨rebasedStore, rebased, same⟩ := bind_eq_ok.mp completed
        cases same
        exact .recreated found creates free rebased
      | none =>
        simp only [free] at completed
        obtain ⟨⟨_, queued⟩, enqueued, same⟩ := bind_eq_ok.mp completed
        cases same
        cases enqueues_of_enqueue enqueued with
        | created _ => exact .undone found creates free
        | merged other _ => exact absurd (free.symm.trans other) (by simp)
        | cancelled other _ _ => exact absurd (free.symm.trans other) (by simp)

/-- The outcomes of a conflict that is resolved in favour of the remote. -/
inductive SettlesWithServer (store : Store) (sent : Operation) (document : Document)
    (metadata : EntityMetadata) (now : Instant) : Settlement → Store → Prop where
  /-- Edits were merged into the operation after it was sent. -/
  | rebased {current : Operation} {next : Store}
      (found : store.operation? sent.id = some current)
      (newer : current.revision ≠ sent.revision)
      (rebased : store.rebase current sent.kind
        (if metadata.deleted then none else metadata.version) = .ok next) :
      SettlesWithServer store sent document metadata now .rebased next
  /-- The operation is as it was sent, and the remote removed its entity. -/
  | removed {current : Operation}
      (found : store.operation? sent.id = some current)
      (same : current.revision = sent.revision) (deleted : metadata.deleted) :
      SettlesWithServer store sent document metadata now .settled
        ((store.removeEntity ⟨sent.table, sent.itemId⟩).markCompleted sent.id now)
  /-- The operation is as it was sent, and the remote holds its entity. -/
  | adopted {current : Operation} {merged : Store}
      (found : store.operation? sent.id = some current)
      (same : current.revision = sent.revision) (live : ¬ metadata.deleted)
      (merges : store.mergeEntity sent.table document = .ok merged) :
      SettlesWithServer store sent document metadata now .settled (merged.markCompleted sent.id now)
  /-- The operation is gone. -/
  | vanished (gone : store.operation? sent.id = none) :
      SettlesWithServer store sent document metadata now .vanished store

/-- A conflict is about an entity that the answer describes under the identity sent: then
`conflictingEntity` answers. -/
theorem conflictingEntity_eq_ok {document : Document} {metadata : EntityMetadata} :
    conflictingEntity sent body = .ok (document, metadata) ↔
      body = some document ∧ EntityMetadata.ofDocument document = .ok metadata ∧
        metadata.id = sent.itemId := by
  unfold conflictingEntity
  cases body with
  | none => simp
  | some given =>
    cases usable : EntityMetadata.ofDocument given with
    | error fault =>
      simp only [usable, reduceCtorEq, Option.some.injEq, false_iff, not_and]
      rintro rfl described
      exact absurd (usable.symm.trans described) (by simp)
    | ok described =>
      simp only [usable, Option.some.injEq]
      split
      · rename_i same
        simp only [Except.ok.injEq, Prod.mk.injEq]
        constructor
        · rintro ⟨rfl, rfl⟩
          exact ⟨rfl, usable, same⟩
        · rintro ⟨rfl, given, -⟩
          exact ⟨rfl, Except.ok.inj (usable.symm.trans given)⟩
      · rename_i differs
        simp only [reduceCtorEq, false_iff, not_and]
        rintro rfl given same
        cases usable.symm.trans given
        exact differs same

/-- A conflict that was settled had one of the outcomes that `SettlesWithServer` lists. -/
theorem settlesWithServer_of_settleWithServer
    (settled : store.settleWithServer sent body now = .ok (settlement, next)) :
    ∃ document metadata, conflictingEntity sent body = .ok (document, metadata) ∧
      store.SettlesWithServer sent document metadata now settlement next := by
  obtain ⟨⟨document, metadata⟩, described, settled⟩ := bind_eq_ok.mp settled
  refine ⟨document, metadata, described, ?_⟩
  cases found : store.operation? sent.id with
  | none =>
    simp only [found, pure_eq_ok] at settled
    cases settled
    exact .vanished found
  | some current =>
    simp only [found] at settled
    split at settled
    · rename_i newer
      obtain ⟨rebasedStore, rebased, same⟩ := bind_eq_ok.mp settled
      cases same
      exact .rebased found newer rebased
    · rename_i unchanged
      have unchanged : current.revision = sent.revision := Decidable.of_not_not unchanged
      split at settled
      · rename_i deleted
        cases settled
        exact .removed found unchanged deleted
      · rename_i live
        obtain ⟨merged, merges, same⟩ := bind_eq_ok.mp settled
        cases same
        exact .adopted found unchanged live merges

/-- The outcomes of noting a failure. -/
inductive RecordsFailure (store : Store) (sent : Operation) (status : Option Int) (reason : String)
    (now : Instant) : Bool → Store → Prop where
  /-- The operation has changed since it was sent, or is gone. -/
  | unmarked (changed : ∀ current, store.operation? sent.id = some current →
      current.revision ≠ sent.revision) :
      RecordsFailure store sent status reason now false store
  /-- The operation is as it was sent. -/
  | marked {current : Operation} (found : store.operation? sent.id = some current)
      (same : current.revision = sent.revision) (alone : ¬ store.hasOpenRival current) :
      RecordsFailure store sent status reason now true
        (store.updateOperation sent.id fun operation =>
          { operation with
            state := .failed
            lastAttempt := some now
            lastStatus := status
            lastError := some reason })

/-- A failure that was noted had one of the outcomes that `RecordsFailure` lists. -/
theorem recordsFailure_of_recordFailure {status : Option Int} {reason : String} {marked : Bool}
    (noted : store.recordFailure sent status reason now = .ok (marked, next)) :
    store.RecordsFailure sent status reason now marked next := by
  unfold recordFailure at noted
  cases found : store.operation? sent.id with
  | none =>
    simp only [found] at noted
    cases noted
    exact .unmarked fun current other => absurd (found.symm.trans other) (by simp)
  | some current =>
    simp only [found] at noted
    split at noted
    · rename_i newer
      cases noted
      refine .unmarked fun other same => ?_
      cases found.symm.trans same
      exact newer
    · rename_i unchanged
      split at noted
      · simp at noted
      · rename_i alone
        cases noted
        exact .marked found (Decidable.of_not_not unchanged) alone

end OfflineSync.Store
