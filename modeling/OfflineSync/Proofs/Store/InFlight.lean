import OfflineSync.Proofs.Store.Reachable

/-!
# Operations in flight

An operation is sent as it was when the push began, and its entity may be edited until the result
comes. Whatever the edits are, the operation that was `HandedOut` is then either as it was, or has
the newest edit merged into it, or was a creation that was undone, after which the entity may have
been edited anew. These are the cases of `Standing`, and every further edit leads from one of them
to another, `InFlight.edited`.
-/

namespace OfflineSync

/-- Whether an edit is of the entity of an operation. -/
def Mutation.Concerns (mutation : Mutation) (operation : Operation) : Prop :=
  mutation.table = operation.table ∧ mutation.itemId = operation.itemId

instance (mutation : Mutation) (operation : Operation) : Decidable (mutation.Concerns operation) :=
  inferInstanceAs (Decidable (_ ∧ _))

/-- The kind of an operation that newer edits were merged into by `coalesceKinds`. A creation
stays one, and any other operation does what the newest edit does. -/
def foldedKind (sent newest : OperationKind) : OperationKind :=
  match sent, newest with
  | .add, _ => .add
  | _, .delete => .delete
  | _, _ => .replace

/-- Merging one more edit, by `coalesceKinds`, gives the kind that merging it alone would give. -/
theorem coalesceKinds_foldedKind {sent newest incoming kind : OperationKind}
    (transition : coalesceKinds (some (foldedKind sent newest)) incoming = .ok (.update kind)) :
    kind = foldedKind sent incoming := by
  cases sent <;> cases newest <;> cases incoming <;> cases transition <;> rfl

/-- Merging a first edit gives the kind of an operation with that edit merged in. -/
theorem coalesceKinds_eq_foldedKind {sent incoming kind : OperationKind}
    (transition : coalesceKinds (some sent) incoming = .ok (.update kind)) :
    kind = foldedKind sent incoming := by
  cases sent <;> cases incoming <;> cases transition <;> rfl

/-- Merging makes a creation of nothing but a creation. -/
theorem eq_add_of_foldedKind {sent newest : OperationKind}
    (creates : foldedKind sent newest = .add) : sent = .add := by
  cases sent <;> cases newest <;> first | rfl | cases creates

namespace Store

/-- Whether an operation bears an identity that the store has handed out. -/
structure HandedOut (store : Store) (sent : Operation) : Prop where
  named : sent.id = Operation.idOfSequence sent.sequence
  positive : 0 < sent.sequence
  numbered : sent.sequence ≤ store.lastSequence

/-- Where an operation that was sent stands in the queue, given the newest edit of
its entity since. -/
inductive Standing (store : Store) (sent : Operation) : Option Mutation → Prop where
  /-- There was no edit. -/
  | untouched (found : store.operation? sent.id = some sent) (isOpen : sent.isOpen) :
      Standing store sent none
  /-- The edits were merged into the operation. -/
  | merged {current : Operation} {newest : Mutation}
      (found : store.operation? sent.id = some current)
      (same : current.SameEntity sent)
      (newer : sent.revision < current.revision)
      (kind : current.kind = foldedKind sent.kind newest.kind)
      (carries : current.Carries newest) :
      Standing store sent (some newest)
  /-- The creation was undone. -/
  | withdrawn {newest : Mutation} (creates : sent.kind = .add)
      (gone : store.operation? sent.id = none)
      (free : store.openOperation? sent.table sent.itemId = none) :
      Standing store sent (some newest)
  /-- The creation was undone, and the entity edited anew. -/
  | renewed {current : Operation} {newest : Mutation} (creates : sent.kind = .add)
      (gone : store.operation? sent.id = none)
      (found : store.openOperation? sent.table sent.itemId = some current)
      (carries : current.Carries newest) :
      Standing store sent (some newest)

/-- An operation in flight: it was queued in a sound queue, and only edits have
touched its entity since. -/
structure InFlight (store : Store) (sent : Operation) (newest : Option Mutation) : Prop where
  sound : store.QueueSound
  handedOut : store.HandedOut sent
  standing : store.Standing sent newest

variable {store next queued : Store} {sent : Operation} {newest : Option Mutation}
  {mutation : Mutation} {now : Instant}

/-- An open operation that is sent is in flight. -/
theorem QueueSound.inFlight (sound : store.QueueSound) {tables : List String}
    (listed : sent ∈ store.listOpen tables) : store.InFlight sent none := by
  obtain ⟨member, isOpen⟩ := mem_of_listOpen listed
  have bounds := sound.numbered sent member
  exact ⟨sound, ⟨sound.named sent member, bounds.1, bounds.2⟩,
    .untouched (sound.operation?_eq_some.mpr ⟨member, rfl⟩) isOpen⟩

/-- A number that is yet to be handed out names another operation than any `HandedOut`. -/
theorem HandedOut.ne_next (handedOut : store.HandedOut sent) (counted : 0 ≤ store.lastSequence) :
    sent.id ≠ Operation.idOfSequence (store.lastSequence + 1) := by
  intro same
  have positive := handedOut.positive
  have numbered := handedOut.numbered
  rw [handedOut.named] at same
  have equal := Operation.idOfSequence_injective (by omega) (by omega) same
  omega

/-- The standing of an operation concerns the queue alone. -/
theorem Standing.of_queue (standing : store.Standing sent newest) (queue : next.queue = store.queue) :
    next.Standing sent newest := by
  have finds : next.operation? sent.id = store.operation? sent.id := by rw [operation?, queue]; rfl
  have opens : next.openOperation? sent.table sent.itemId =
      store.openOperation? sent.table sent.itemId := by rw [openOperation?, queue]; rfl
  cases standing with
  | untouched found isOpen => exact .untouched (finds.trans found) isOpen
  | merged found same newer kind carries => exact .merged (finds.trans found) same newer kind carries
  | withdrawn creates gone free => exact .withdrawn creates (finds.trans gone) (opens.trans free)
  | renewed creates gone found carries =>
    exact .renewed creates (finds.trans gone) (opens.trans found) carries

/-- A write to local copies (`DiffersInCopies`) leaves an operation in flight. -/
theorem InFlight.of_differs (inFlight : store.InFlight sent newest)
    (differs : DiffersInCopies store next) : next.InFlight sent newest where
  sound := differs.queueSound inFlight.sound
  handedOut := ⟨inFlight.handedOut.named, inFlight.handedOut.positive,
    differs.lastSequence ▸ inFlight.handedOut.numbered⟩
  standing := inFlight.standing.of_queue differs.queue

/-- Removing an operation, by `removeOperation`, keeps any other from being found. -/
theorem operation?_removeOperation_eq_none {id other : String}
    (gone : store.operation? id = none) : (store.removeOperation other).operation? id = none :=
  operation?_eq_none.mpr fun operation remaining =>
    operation?_eq_none.mp gone operation (mem_removeOperation.mp remaining).1

/-- Revising an operation keeps any other from being found. -/
theorem QueueSound.operation?_replaceOperation_eq_none {operation present : Operation} {id : String}
    (sound : store.QueueSound) (queued : present ∈ store.queue) (revises : operation.Revises present)
    (gone : store.operation? id = none) : (store.replaceOperation operation).operation? id = none := by
  have absent := operation?_eq_none.mp gone
  refine operation?_eq_none.mpr fun other remaining => ?_
  rcases (sound.mem_replaceOperation queued revises).mp remaining with rfl | ⟨member, -⟩
  · exact revises.sameRow.id ▸ absent present queued
  · exact absent other member

/-- An open operation of an entity is the open operation of that entity. -/
theorem QueueSound.openOperation?_of_sameEntity {operation : Operation} (sound : store.QueueSound)
    (queued : operation ∈ store.queue) (isOpen : operation.isOpen) (same : operation.SameEntity sent) :
    store.openOperation? sent.table sent.itemId = some operation :=
  sound.openOperation?_eq_some.mpr ⟨queued, Operation.isFor_iff.mpr same, isOpen⟩

variable {present : Operation} {kind : OperationKind}

/-- An edit that is queued as an operation of its own was preceded by one that
undid the creation sent. -/
private theorem Standing.appendOperation (standing : store.Standing sent newest)
    (sound : store.QueueSound) (handedOut : store.HandedOut sent) (concerns : mutation.Concerns sent)
    (free : store.openOperation? sent.table sent.itemId = none) :
    (store.appendOperation
      (Operation.ofMutation mutation (store.lastSequence + 1) now)).Standing sent (some mutation) := by
  have closed : ∀ operation, store.operation? sent.id = some operation → operation.isOpen →
      ¬ operation.SameEntity sent := by
    intro operation found isOpen same
    have opens := sound.openOperation?_of_sameEntity (mem_of_operation? found).1 isOpen same
    exact absurd (free.symm.trans opens) (by simp)
  cases standing with
  | untouched found isOpen => exact absurd ⟨rfl, rfl⟩ (closed sent found isOpen)
  | merged found same newer kind carries => exact absurd same (closed _ found carries.isOpen)
  | renewed creates gone found carries => exact absurd (free.symm.trans found) (by simp)
  | withdrawn creates gone _ =>
    refine .renewed creates ?_ ?_ (Operation.carries_ofMutation mutation (store.lastSequence + 1) now)
    · rw [operation?_appendOperation (sound.fresh rfl rfl), if_neg]
      · exact gone
      · exact handedOut.ne_next sound.counted
    · have unopened : store.openOperation? mutation.table mutation.itemId = none := by
        rw [concerns.1, concerns.2, free]
      rw [openOperation?_appendOperation (Operation.isOpen_ofMutation _ _ _) unopened, if_pos]
      exact Operation.isFor_iff.mpr concerns

/-- An edit that is merged is merged into the operation sent, or into one that was
created after it was undone. -/
private theorem Standing.mergeOperation (standing : store.Standing sent newest)
    (sound : store.QueueSound) (found : store.openOperation? sent.table sent.itemId = some present)
    (transition : coalesceKinds (some present.kind) mutation.kind = .ok (.update kind)) :
    (store.replaceOperation (present.merge kind mutation)).Standing sent (some mutation) := by
  obtain ⟨member, belongs, isOpen⟩ := mem_of_openOperation? found
  have revises := present.revises_merge kind mutation
  have carries := Operation.carries_merge transition
  have merges (finds : store.operation? sent.id = some present) :
      (store.replaceOperation (present.merge kind mutation)).operation? sent.id =
        some (present.merge kind mutation) := by
    rw [sound.operation?_replaceOperation member revises fun _ => isOpen, if_pos]
    exact (mem_of_operation? finds).2.symm
  have same : (present.merge kind mutation).SameEntity sent := Operation.isFor_iff.mp belongs
  cases standing with
  | untouched finds sentOpen =>
    have opens := sound.openOperation?_of_sameEntity (mem_of_operation? finds).1 sentOpen ⟨rfl, rfl⟩
    cases found.symm.trans opens
    refine .merged (merges finds) same ?_ (coalesceKinds_eq_foldedKind transition) carries
    exact Int.lt_succ _
  | merged finds entity newer folded earlier =>
    have opens := sound.openOperation?_of_sameEntity (mem_of_operation? finds).1 earlier.isOpen entity
    cases found.symm.trans opens
    rw [folded] at transition
    refine .merged (merges finds) same ?_ (coalesceKinds_foldedKind transition) carries
    exact Int.lt_trans newer (Int.lt_succ _)
  | withdrawn creates gone free => exact absurd (free.symm.trans found) (by simp)
  | renewed creates gone finds earlier =>
    refine .renewed creates (sound.operation?_replaceOperation_eq_none member revises gone) ?_ carries
    rw [sound.openOperation?_replaceOperation member revises isOpen carries.isOpen, if_pos]
    exact Operation.isFor_iff.mpr same

/-- An edit that cancels a creation undoes the one sent, or one that was created
after it was undone. -/
private theorem Standing.cancelOperation (standing : store.Standing sent newest)
    (sound : store.QueueSound) (found : store.openOperation? sent.table sent.itemId = some present)
    (creates : present.kind = .add) :
    (store.removeOperation present.id).Standing sent (some mutation) := by
  obtain ⟨member, belongs, isOpen⟩ := mem_of_openOperation? found
  have free : (store.removeOperation present.id).openOperation? sent.table sent.itemId = none := by
    rw [sound.openOperation?_removeOperation member isOpen, if_pos belongs]
  have undone (finds : store.operation? sent.id = some present) :
      (store.removeOperation present.id).operation? sent.id = none := by
    rw [sound.operation?_removeOperation, if_pos (mem_of_operation? finds).2.symm]
  cases standing with
  | untouched finds sentOpen =>
    have opens := sound.openOperation?_of_sameEntity (mem_of_operation? finds).1 sentOpen ⟨rfl, rfl⟩
    cases found.symm.trans opens
    exact .withdrawn creates (undone finds) free
  | merged finds entity newer folded earlier =>
    have opens := sound.openOperation?_of_sameEntity (mem_of_operation? finds).1 earlier.isOpen entity
    cases found.symm.trans opens
    refine .withdrawn ?_ (undone finds) free
    exact eq_add_of_foldedKind (folded.symm.trans creates)
  | withdrawn _ gone unopened => exact absurd (unopened.symm.trans found) (by simp)
  | renewed sentCreates gone finds earlier =>
    exact .withdrawn sentCreates (operation?_removeOperation_eq_none gone) free

/-- A queued edit leads from one `Standing` to another, with the edit as the newest. -/
theorem Standing.enqueues (standing : store.Standing sent newest) (sound : store.QueueSound)
    (handedOut : store.HandedOut sent) (concerns : mutation.Concerns sent)
    (enqueues : store.Enqueues mutation now next) : next.Standing sent (some mutation) := by
  have entity : store.openOperation? mutation.table mutation.itemId =
      store.openOperation? sent.table sent.itemId := by rw [concerns.1, concerns.2]
  cases enqueues with
  | created free => exact standing.appendOperation sound handedOut concerns (entity ▸ free)
  | merged found transition => exact standing.mergeOperation sound (entity ▸ found) transition
  | cancelled found creates deletes => exact standing.cancelOperation sound (entity ▸ found) creates

/-- A recorded edit leaves an operation `InFlight`, by its `Standing`. -/
theorem InFlight.edited {outcome : EnqueueOutcome} (inFlight : store.InFlight sent newest)
    (concerns : mutation.Concerns sent)
    (recorded : store.recordLocalMutation mutation now = .ok (outcome, next)) :
    next.InFlight sent (some mutation) := by
  obtain ⟨queued, enqueues, writes⟩ := recordLocalMutation_eq_ok recorded
  obtain ⟨sound, handedOut, standing⟩ := inFlight
  have enqueued : queued.InFlight sent (some mutation) :=
    ⟨enqueues.queueSound sound,
      ⟨handedOut.named, handedOut.positive,
        Int.le_trans handedOut.numbered enqueues.lastSequence_le⟩,
      standing.enqueues sound handedOut concerns enqueues⟩
  exact enqueued.of_differs writes.differsInCopies

/-- Nothing is queued for the entity of an operation in flight only where the creation
sent was undone. -/
theorem InFlight.creates_of_free (inFlight : store.InFlight sent newest)
    (free : store.openOperation? sent.table sent.itemId = none) : sent.kind = .add := by
  cases inFlight.standing with
  | untouched found isOpen =>
    have opens := inFlight.sound.openOperation?_of_sameEntity (mem_of_operation? found).1 isOpen
      ⟨rfl, rfl⟩
    cases free.symm.trans opens
  | merged found same newer kind carries =>
    have opens := inFlight.sound.openOperation?_of_sameEntity (mem_of_operation? found).1
      carries.isOpen same
    cases free.symm.trans opens
  | renewed creates gone found carries => cases free.symm.trans found
  | withdrawn creates gone free => exact creates

/-- An operation in flight that is found with the revision it was sent with is as it was
sent. -/
theorem InFlight.untouched {current : Operation} (inFlight : store.InFlight sent newest)
    (found : store.operation? sent.id = some current) (same : current.revision = sent.revision) :
    current = sent ∧ sent.isOpen := by
  cases inFlight.standing with
  | untouched finds isOpen =>
    cases found.symm.trans finds
    exact ⟨rfl, isOpen⟩
  | merged finds entity newer =>
    cases found.symm.trans finds
    exact absurd same (Int.ne_of_lt newer).symm
  | withdrawn creates gone => cases gone.symm.trans found
  | renewed creates gone => cases gone.symm.trans found

/-- Records edits one after the other, all of which must be accepted. -/
def recordAll (store : Store) : List (Mutation × Instant) → Except StoreError Store
  | [] => .ok store
  | (mutation, now) :: rest =>
    match store.recordLocalMutation mutation now with
    | .error fault => .error fault
    | .ok (_, next) => next.recordAll rest

theorem recordAll_cons {outcome : EnqueueOutcome} {edits : List (Mutation × Instant)}
    (recorded : store.recordLocalMutation mutation now = .ok (outcome, next)) :
    store.recordAll ((mutation, now) :: edits) = next.recordAll edits := by
  rw [recordAll, recorded]

/-- An operation stays in flight however its entity is edited, with the last edit as the
newest. The induction is on the edits, by `InFlight.edited`. -/
theorem InFlight.recordAll {edits : List (Mutation × Instant)} {after : Store}
    (inFlight : store.InFlight sent newest) (concerns : ∀ edit ∈ edits, edit.1.Concerns sent)
    (recorded : store.recordAll edits = .ok after) :
    after.InFlight sent ((edits.getLast?.map Prod.fst).or newest) := by
  induction edits generalizing store newest with
  | nil =>
    cases recorded
    exact inFlight
  | cons edit rest inductionHypothesis =>
    obtain ⟨mutation, now⟩ := edit
    unfold Store.recordAll at recorded
    split at recorded
    · cases recorded
    · rename_i outcome next accepted
      have edited := inFlight.edited (concerns _ (List.mem_cons_self ..)) accepted
      have rested := inductionHypothesis edited
        (fun edit member => concerns edit (List.mem_cons_of_mem _ member)) recorded
      rw [List.getLast?_cons]
      cases last : rest.getLast? <;> simpa [last] using rested

end Store

end OfflineSync
