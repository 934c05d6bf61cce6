import OfflineSync.Proofs.Store.Results

/-!
# The index of open operations

The engine keeps an index that refuses a second open operation of an entity. The calls here are
those of the store with the index consulted after each change of the queue, such as
`completePushIndexed`. In a sound queue they do what the plain calls do, `completePushIndexed_eq`:
the index has nothing to refuse.
-/

namespace OfflineSync.Store

/-- Whether no entity has two open operations. -/
def keepsIndex (store : Store) : Bool :=
  store.queue.all fun operation => (store.openRows operation.table operation.itemId).length ≤ 1

/-- The engine's answer to a changed queue. -/
def indexed (store : Store) : Except StoreError Store :=
  if store.keepsIndex then .ok store else .error (.ofEngine (.uniqueConstraint openKeyColumns))

/-- Merges an edit into the queue as `enqueue` does, under the index. -/
def enqueueIndexed (store : Store) (mutation : Mutation) (now : Instant) :
    Except StoreError (EnqueueOutcome × Store) := do
  let (outcome, queued) ← store.enqueue mutation now
  return (outcome, ← queued.indexed)

/-- Queues an edit, under the index, and writes it to the local copy. -/
def recordLocalMutationIndexed (store : Store) (mutation : Mutation) (now : Instant) :
    Except StoreError (EnqueueOutcome × Store) := do
  let (outcome, queued) ← store.enqueueIndexed mutation now
  return (outcome, ← queued.applyEdit mutation)

/-- Rebases a queued operation as `rebase` does, under the index. -/
def rebaseIndexed (store : Store) (operation : Operation) (sent : OperationKind)
    (version : Option String) : Except StoreError Store := do
  let rebased := operation.rebase sent version
  let replaced ← (store.replaceOperation rebased).indexed
  if rebased.kind = .delete then .ok replaced
  else replaced.setEntityVersion ⟨rebased.table, rebased.itemId⟩ rebased.entityVersion

/-- Settles an operation that the remote has carried out as `completePush` does, under the
index. -/
def completePushIndexed (store : Store) (sent : Operation) (body : Option Document)
    (headerVersion : Option String) (now : Instant) : Except StoreError (Settlement × Store) :=
  let version := answeredVersion body headerVersion
  match store.operation? sent.id with
  | some current =>
    if current.revision ≠ sent.revision then do
      return (.rebased, ← store.rebaseIndexed current sent.kind version)
    else do
      let adopted ← store.adoptAnswer sent body version
      return (.settled, ← (adopted.removeOperation sent.id).indexed)
  | none =>
    if sent.kind ≠ .add then .ok (.vanished, store)
    else
      match store.openOperation? sent.table sent.itemId with
      | some recreated => do
        return (.rebased, ← store.rebaseIndexed recreated sent.kind version)
      | none => do
        let (_, queued) ← store.enqueueIndexed (followUpDelete sent version) now
        return (.rebased, queued)

/-- Resolves a conflict in favour of the remote, under the index. -/
def settleWithServerIndexed (store : Store) (sent : Operation) (body : Option Document)
    (now : Instant) : Except StoreError (Settlement × Store) := do
  let (document, metadata) ← conflictingEntity sent body
  match store.operation? sent.id with
  | none => return (.vanished, store)
  | some current =>
    if current.revision ≠ sent.revision then
      let version := if metadata.deleted then none else metadata.version
      return (.rebased, ← store.rebaseIndexed current sent.kind version)
    let adopted ←
      if metadata.deleted then pure (store.removeEntity ⟨sent.table, sent.itemId⟩)
      else store.mergeEntity sent.table document
    return (.settled, ← (adopted.markCompleted sent.id now).indexed)

namespace QueueSound

variable {store : Store} {sent current : Operation} {table itemId : String}

/-- A sound queue (`QueueSound`) has one open operation of an entity at most. -/
theorem openRows_length_le (sound : store.QueueSound) (table itemId : String) :
    (store.openRows table itemId).length ≤ 1 := by
  rw [sound.openRows_eq]
  cases store.openOperation? table itemId <;> simp

/-- The index takes a sound queue. -/
theorem indexed (sound : store.QueueSound) : store.indexed = .ok store := by
  have keeps : store.keepsIndex := by
    refine List.all_eq_true.mpr fun operation _ => ?_
    exact decide_eq_true (sound.openRows_length_le operation.table operation.itemId)
  rw [Store.indexed, if_pos keeps]

/-- The index refuses no edit that is queued: `enqueueIndexed` is `enqueue`. -/
theorem enqueueIndexed_eq (sound : store.QueueSound) (mutation : Mutation) (now : Instant) :
    store.enqueueIndexed mutation now = store.enqueue mutation now := by
  unfold enqueueIndexed
  cases enqueued : store.enqueue mutation now with
  | error fault => rfl
  | ok result =>
    obtain ⟨outcome, queued⟩ := result
    have after := (enqueues_of_enqueue enqueued).queueSound sound
    change (queued.indexed >>= fun kept => pure (outcome, kept)) = .ok (outcome, queued)
    rw [after.indexed]
    rfl

/-- The index refuses no edit. -/
theorem recordLocalMutationIndexed_eq (sound : store.QueueSound) (mutation : Mutation)
    (now : Instant) :
    store.recordLocalMutationIndexed mutation now = store.recordLocalMutation mutation now := by
  rw [recordLocalMutationIndexed, sound.enqueueIndexed_eq, recordLocalMutation]

/-- The index refuses no rebase of a queued operation. -/
theorem rebaseIndexed_eq (sound : store.QueueSound) (queued : current ∈ store.queue)
    (kind : OperationKind) (version : Option String) :
    store.rebaseIndexed current kind version = store.rebase current kind version := by
  have after := sound.replaceOperation queued (current.revises_rebase kind version) id
  unfold rebaseIndexed
  dsimp only
  rw [after.indexed]
  rfl

/-- The index refuses no success: `completePushIndexed` is `completePush`. -/
theorem completePushIndexed_eq (sound : store.QueueSound) (sent : Operation)
    (body : Option Document) (header : Option String) (now : Instant) :
    store.completePushIndexed sent body header now = store.completePush sent body header now := by
  unfold completePushIndexed completePush
  dsimp only
  cases found : store.operation? sent.id with
  | some current =>
    dsimp only
    split
    · rw [sound.rebaseIndexed_eq (mem_of_operation? found).1]
    · refine bind_congr_ok fun adopted adopts => ?_
      have after := ((differs_adoptAnswer adopts).queueSound sound).removeOperation sent.id
      rw [after.indexed]
      rfl
  | none =>
    dsimp only
    split
    · rfl
    · cases opens : store.openOperation? sent.table sent.itemId with
      | some recreated =>
        dsimp only
        rw [sound.rebaseIndexed_eq (mem_of_openOperation? opens).1]
      | none =>
        dsimp only
        rw [sound.enqueueIndexed_eq]

/-- The index refuses no conceded conflict. -/
theorem settleWithServerIndexed_eq (sound : store.QueueSound) (sent : Operation)
    (body : Option Document) (now : Instant) :
    store.settleWithServerIndexed sent body now = store.settleWithServer sent body now := by
  unfold settleWithServerIndexed settleWithServer
  refine bind_congr_ok fun described _ => ?_
  obtain ⟨document, metadata⟩ := described
  cases found : store.operation? sent.id with
  | none => rfl
  | some current =>
    dsimp only
    split
    · rw [sound.rebaseIndexed_eq (mem_of_operation? found).1]
    · have closed {copied : Store} (differs : DiffersInCopies store copied) :
          (copied.markCompleted sent.id now).indexed = .ok (copied.markCompleted sent.id now) :=
        ((differs.queueSound sound).markCompleted sent.id).indexed
      split
      · refine bind_congr_ok fun adopted adopts => ?_
        cases adopts
        rw [closed differs_removeEntity]
        rfl
      · refine bind_congr_ok fun adopted adopts => ?_
        rw [closed (differs_mergeEntity adopts)]
        rfl

/-- A failure is noted by `recordFailure` on an operation that is open, without the index. -/
theorem recordFailure_isOk (sound : store.QueueSound)
    (isOpen : ∀ row, store.operation? sent.id = some row → row.isOpen) (status : Option Int)
    (reason : String) (now : Instant) :
    ∃ marked next, store.recordFailure sent status reason now = .ok (marked, next) := by
  unfold recordFailure
  cases found : store.operation? sent.id with
  | none => exact ⟨_, _, rfl⟩
  | some current =>
    have alone := sound.not_hasOpenRival (mem_of_operation? found).1 (isOpen current found)
    dsimp only
    rw [if_neg alone]
    split
    · exact ⟨_, _, rfl⟩
    · exact ⟨_, _, rfl⟩

end QueueSound

end OfflineSync.Store
