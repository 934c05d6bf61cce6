import OfflineSync.Proofs.Outbox.Coalescing
import OfflineSync.Proofs.Store.Entities
import OfflineSync.Proofs.Store.Queue
import OfflineSync.Sync.Edit

/-!
# What an edit does

An accepted edit changes the queue in one of three ways, which `Enqueues` lists, decided by the open
operation of its entity alone, and then writes the local copy, `WritesEdit`. Whatever it does, the
newest edit is what the open operation `Carries`.
-/

namespace OfflineSync

namespace Operation

/-- An operation of a new edit, `ofMutation`, is open. -/
theorem isOpen_ofMutation (mutation : Mutation) (sequence : Int) (now : Instant) :
    (ofMutation mutation sequence now).isOpen := rfl

theorem revises_merge (operation : Operation) (kind : OperationKind) (mutation : Mutation) :
    (operation.merge kind mutation).Revises operation := rfl

theorem revises_rebase (operation : Operation) (sent : OperationKind) (version : Option String) :
    (operation.rebase sent version).Revises operation := rfl

/-- What an operation has after a newest edit: it awaits a push, and sends the
text of the edit, or deletes where the edit does. -/
structure Carries (operation : Operation) (newest : Mutation) : Prop where
  pending : operation.state = .pending
  payload : operation.payload = payloadFor newest.kind newest.item
  deletes : operation.kind = .delete ↔ newest.kind = .delete

theorem Carries.isOpen {operation : Operation} {newest : Mutation}
    (carries : operation.Carries newest) : operation.isOpen := by
  simp [Operation.isOpen, carries.pending]

/-- An operation that carries no removal sends the text of the edit. -/
theorem Carries.payload_eq_some {operation : Operation} {newest : Mutation}
    (carries : operation.Carries newest) (keeps : newest.kind ≠ .delete) :
    operation.payload = some newest.item := by
  rw [carries.payload]
  cases kind : newest.kind with
  | add | replace => rfl
  | delete => exact absurd kind keeps

/-- A new operation carries its edit. -/
theorem carries_ofMutation (mutation : Mutation) (sequence : Int) (now : Instant) :
    (ofMutation mutation sequence now).Carries mutation :=
  ⟨rfl, rfl, Iff.rfl⟩

end Operation

/-- The payload of a merged operation is that of the edit itself, so that it `Carries` the edit. -/
theorem Operation.carries_merge {operation : Operation} {kind : OperationKind} {mutation : Mutation}
    (transition : coalesceKinds (some operation.kind) mutation.kind = .ok (.update kind)) :
    (operation.merge kind mutation).Carries mutation := by
  have deletes := coalesceKinds_deletes transition
  exact ⟨rfl, payloadFor_congr deletes, deletes⟩

namespace Store

/-- What queuing an edit does, by the open operation of its entity. -/
inductive Enqueues (store : Store) (mutation : Mutation) (now : Instant) : Store → Prop where
  | created (free : store.openOperation? mutation.table mutation.itemId = none) :
      Enqueues store mutation now
        (store.appendOperation (Operation.ofMutation mutation (store.lastSequence + 1) now))
  | merged {present : Operation} {kind : OperationKind}
      (found : store.openOperation? mutation.table mutation.itemId = some present)
      (transition : coalesceKinds (some present.kind) mutation.kind = .ok (.update kind)) :
      Enqueues store mutation now (store.replaceOperation (present.merge kind mutation))
  | cancelled {present : Operation}
      (found : store.openOperation? mutation.table mutation.itemId = some present)
      (creates : present.kind = .add) (deletes : mutation.kind = .delete) :
      Enqueues store mutation now (store.removeOperation present.id)

variable {store next after : Store} {mutation : Mutation} {now : Instant} {outcome : EnqueueOutcome}

/-- What `enqueue` answers and leaves of the queue, by the open operation of the entity. -/
theorem enqueue_cases (accepted : store.enqueue mutation now = .ok (outcome, next)) :
    (store.openOperation? mutation.table mutation.itemId = none ∧
        outcome = .created (.ofMutation mutation (store.lastSequence + 1) now) ∧
        next = store.appendOperation (.ofMutation mutation (store.lastSequence + 1) now)) ∨
      ∃ present, store.openOperation? mutation.table mutation.itemId = some present ∧
        ((∃ kind, coalesceKinds (some present.kind) mutation.kind = .ok (.update kind) ∧
            outcome = .coalesced (present.merge kind mutation) ∧
            next = store.replaceOperation (present.merge kind mutation)) ∨
          (present.kind = .add ∧ mutation.kind = .delete) ∧
            outcome = .removed present.id ∧ next = store.removeOperation present.id) := by
  unfold enqueue at accepted
  cases found : store.openOperation? mutation.table mutation.itemId with
  | none =>
    rw [found] at accepted
    cases accepted
    exact .inl ⟨rfl, rfl, rfl⟩
  | some present =>
    rw [found] at accepted
    refine .inr ⟨present, rfl, ?_⟩
    cases planned : coalesce (some present) mutation (store.lastSequence + 1) now with
    | error refusal => simp [planned] at accepted
    | ok plan =>
      rw [planned] at accepted
      rcases coalesce_some_eq_ok planned with ⟨kind, transition, rfl⟩ | ⟨transition, rfl⟩
      · cases accepted
        exact .inl ⟨kind, transition, rfl, rfl⟩
      · cases accepted
        exact .inr ⟨coalesceKinds_cancels transition, rfl, rfl⟩

/-- A queued edit created an operation, was merged into one or cancelled one: the cases of
`Enqueues`. -/
theorem enqueues_of_enqueue (accepted : store.enqueue mutation now = .ok (outcome, next)) :
    store.Enqueues mutation now next := by
  rcases enqueue_cases accepted with
    ⟨free, -, rfl⟩ | ⟨present, found, ⟨kind, transition, -, rfl⟩ | ⟨⟨creates, deletes⟩, -, rfl⟩⟩
  · exact .created free
  · exact .merged found transition
  · exact .cancelled found creates deletes

/-- A queued edit leaves the queue sound. -/
theorem Enqueues.queueSound (enqueues : store.Enqueues mutation now next)
    (sound : store.QueueSound) : next.QueueSound := by
  cases enqueues with
  | created free => exact sound.appendOperation rfl rfl free
  | merged found transition =>
    obtain ⟨queued, -, isOpen⟩ := mem_of_openOperation? found
    exact sound.replaceOperation queued (Operation.revises_merge _ _ _) fun _ => isOpen
  | cancelled found creates deletes => exact sound.removeOperation _

/-- What is open of an entity after an edit of it was queued. -/
inductive Opens (store : Store) (mutation : Mutation) (now : Instant) :
    Option Operation → Prop where
  | created (free : store.openOperation? mutation.table mutation.itemId = none) :
      Opens store mutation now (some (.ofMutation mutation (store.lastSequence + 1) now))
  | merged {present : Operation} {kind : OperationKind}
      (found : store.openOperation? mutation.table mutation.itemId = some present)
      (transition : coalesceKinds (some present.kind) mutation.kind = .ok (.update kind)) :
      Opens store mutation now (some (present.merge kind mutation))
  | cancelled {present : Operation}
      (found : store.openOperation? mutation.table mutation.itemId = some present)
      (creates : present.kind = .add) (deletes : mutation.kind = .delete) :
      Opens store mutation now none

/-- A queued edit decides what is open of its entity. -/
theorem Enqueues.opens (enqueues : store.Enqueues mutation now next) (sound : store.QueueSound) :
    store.Opens mutation now (next.openOperation? mutation.table mutation.itemId) := by
  cases enqueues with
  | created free =>
    have belongs : (Operation.ofMutation mutation (store.lastSequence + 1) now).isFor mutation.table
        mutation.itemId := Operation.isFor_iff.mpr ⟨rfl, rfl⟩
    rw [openOperation?_appendOperation (Operation.isOpen_ofMutation ..) free, if_pos belongs]
    exact .created free
  | @merged present kind found transition =>
    obtain ⟨queued, belongs, isOpen⟩ := mem_of_openOperation? found
    have mergedFor : (present.merge kind mutation).isFor mutation.table mutation.itemId := belongs
    rw [sound.openOperation?_replaceOperation queued (present.revises_merge kind mutation) isOpen
      (Operation.carries_merge transition).isOpen, if_pos mergedFor]
    exact .merged found transition
  | @cancelled present found creates deletes =>
    obtain ⟨queued, belongs, isOpen⟩ := mem_of_openOperation? found
    rw [sound.openOperation?_removeOperation queued isOpen, if_pos belongs]
    exact .cancelled found creates deletes

/-- What an edit leaves open of its entity (`Opens`) carries the edit. -/
theorem Opens.carries {row : Operation} {opened : Option Operation}
    (opens : store.Opens mutation now opened) (found : opened = some row) :
    row.Carries mutation := by
  cases opens with
  | created free =>
    cases found
    exact Operation.carries_ofMutation ..
  | merged present transition =>
    cases found
    exact Operation.carries_merge transition
  | cancelled present creates deletes => cases found

/-- A queued edit leaves the local copies alone. -/
theorem Enqueues.entities (enqueues : store.Enqueues mutation now next) :
    next.entities = store.entities := by
  cases enqueues <;> rfl

/-- The counter never falls. -/
theorem Enqueues.lastSequence_le (enqueues : store.Enqueues mutation now next) :
    store.lastSequence ≤ next.lastSequence := by
  cases enqueues with
  | created free =>
    change store.lastSequence ≤ store.lastSequence + 1
    omega
  | merged found transition => exact Int.le_refl _
  | cancelled found creates deletes => exact Int.le_refl _

/-- What writing an edit to its local copy does, by the edit's kind. -/
inductive WritesEdit (store : Store) (mutation : Mutation) : Store → Prop where
  | removed (kind : mutation.kind = .delete) :
      WritesEdit store mutation (store.removeEntity ⟨mutation.table, mutation.itemId⟩)
  | added {document : Document} {metadata : EntityMetadata} (kind : mutation.kind = .add)
      (read : Document.read mutation.item = some document)
      (usable : EntityMetadata.ofDocument document = .ok metadata)
      (free : store.entity? ⟨mutation.table, metadata.id⟩ = none) :
      WritesEdit store mutation (store.withCopy mutation.table document metadata)
  | replaced {document : Document} {metadata : EntityMetadata} (kind : mutation.kind = .replace)
      (read : Document.read mutation.item = some document)
      (usable : EntityMetadata.ofDocument document = .ok metadata) :
      WritesEdit store mutation (store.withCopy mutation.table document metadata)

/-- An edit written by `applyEdit` removed the copy, added a document or placed one. -/
theorem writesEdit_of_applyEdit (written : store.applyEdit mutation = .ok next) :
    store.WritesEdit mutation next := by
  unfold applyEdit at written
  cases kind : mutation.kind with
  | delete =>
    simp only [kind, Except.ok.injEq] at written
    subst written
    exact .removed kind
  | add =>
    cases read : Document.read mutation.item with
    | none => simp [kind, read] at written
    | some document =>
      simp only [kind, read, if_true] at written
      obtain ⟨metadata, usable, free, rfl⟩ := addEntity_eq_ok.mp written
      exact .added kind read usable free
  | replace =>
    cases read : Document.read mutation.item with
    | none => simp [kind, read] at written
    | some document =>
      simp only [kind, read, reduceCtorEq, if_false] at written
      obtain ⟨metadata, usable, rfl⟩ := putEntity_eq_ok.mp written
      exact .replaced kind read usable

/-- A written edit changes local copies alone (`DiffersInCopies`). -/
theorem WritesEdit.differsInCopies (writes : store.WritesEdit mutation next) :
    DiffersInCopies store next := by
  cases writes with
  | removed kind => exact differs_removeEntity
  | added kind read usable free => exact differs_withCopy
  | replaced kind read usable => exact differs_withCopy

/-- An edit that can be queued (`enqueue`) and then written (`applyEdit`) is accepted. -/
theorem recordLocalMutation_eq {queued : Store}
    (enqueued : store.enqueue mutation now = .ok (outcome, queued))
    (applied : queued.applyEdit mutation = .ok after) :
    store.recordLocalMutation mutation now = .ok (outcome, after) := by
  simp only [recordLocalMutation, bind_eq_ok, pure_eq_ok]
  exact ⟨(outcome, queued), enqueued, after, applied, rfl⟩

/-- An accepted edit is queued and then written. -/
theorem recordLocalMutation_eq_ok
    (accepted : store.recordLocalMutation mutation now = .ok (outcome, after)) :
    ∃ queued, store.Enqueues mutation now queued ∧ queued.WritesEdit mutation after := by
  simp only [recordLocalMutation, bind_eq_ok, pure_eq_ok] at accepted
  obtain ⟨⟨_, queued⟩, enqueued, written, applied, same⟩ := accepted
  cases same
  exact ⟨queued, enqueues_of_enqueue enqueued, writesEdit_of_applyEdit applied⟩

/-- An accepted edit on a document is recorded as the mutation that it describes (`ofEdit`). -/
theorem edit_eq_ok {edit : Edit} (accepted : store.edit edit now = .ok (outcome, next)) :
    ∃ mutation, Mutation.ofEdit edit = .ok mutation ∧
      store.recordLocalMutation mutation now = .ok (outcome, next) := by
  unfold Store.edit at accepted
  split at accepted
  · cases accepted
  · rename_i mutation described
    exact ⟨mutation, described, mapError_eq_ok.mp accepted⟩

/-- What each accepted edit keeps is kept by edits one after the other. A refused edit
changes nothing. -/
theorem editAll_induction {motive : Store → Prop} {edits : List Edit} (start : motive store)
    (step : ∀ edit ∈ edits, ∀ mutation, Mutation.ofEdit edit = .ok mutation →
      ∀ before outcome after, motive before →
        before.recordLocalMutation mutation now = .ok (outcome, after) → motive after) :
    motive (store.editAll now edits).2 := by
  induction edits generalizing store with
  | nil => exact start
  | cons edit rest inductionHypothesis =>
    obtain ⟨first, others⟩ := List.forall_mem_cons.mp step
    unfold editAll
    cases accepted : store.edit edit now with
    | error fault => exact inductionHypothesis start others
    | ok result =>
      obtain ⟨outcome, next⟩ := result
      obtain ⟨mutation, described, recorded⟩ := edit_eq_ok accepted
      exact inductionHypothesis (first mutation described _ _ _ start recorded) others

end Store

end OfflineSync
