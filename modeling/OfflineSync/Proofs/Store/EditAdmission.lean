import OfflineSync.Proofs.Store.Confinement
import OfflineSync.Proofs.Store.OpenIndex
import OfflineSync.Store.Database

/-!
# When an edit is accepted

An edit is queued before its item is looked at, and is accepted if the store `Admits` it: the queue
takes it and the item can be written. The kinds alone decide what the queue takes, and the item
decides the rest (`AdmitsItem`). A refusal takes back what was queued, each of the `workingCopies`:
the store is the one that the edit found.
-/

namespace OfflineSync

namespace Store

/-- The transition that an edit causes on what is open of its entity, by `coalesceKinds`. -/
def transition (store : Store) (mutation : Mutation) : Except CoalesceError KindTransition :=
  coalesceKinds ((store.openOperation? mutation.table mutation.itemId).map Operation.kind)
    mutation.kind

/-- Whether the item of an edit can be written to the local copies. Only an edit that does
not remove its entity needs one, and only one that creates it needs the identity free. -/
def AdmitsItem (store : Store) (mutation : Mutation) : Prop :=
  mutation.kind ≠ .delete →
    ∃ document metadata, Document.read mutation.item = some document ∧
      EntityMetadata.ofDocument document = .ok metadata ∧
      (mutation.kind = .add → store.entity? ⟨mutation.table, metadata.id⟩ = none)

/-- Whether an edit can follow those already queued (`transition`), and its item be written
(`AdmitsItem`). -/
structure Admits (store : Store) (mutation : Mutation) : Prop where
  follows : ∃ step, store.transition mutation = .ok step
  item : store.AdmitsItem mutation

/-- Why the item of an edit cannot be written to the local copies. -/
inductive RefusesItem (store : Store) (mutation : Mutation) : StoreError → Prop where
  | unread (keeps : mutation.kind ≠ .delete) (garbled : Document.read mutation.item = none) :
      RefusesItem store mutation .unreadable
  | unusable {document : Document} {fault : ValidationError} (keeps : mutation.kind ≠ .delete)
      (read : Document.read mutation.item = some document)
      (invalid : EntityMetadata.ofDocument document = .error fault) :
      RefusesItem store mutation (.ofValidation fault)
  | taken {document : Document} {metadata : EntityMetadata} {copy : EntityRow}
      (creates : mutation.kind = .add) (read : Document.read mutation.item = some document)
      (usable : EntityMetadata.ofDocument document = .ok metadata)
      (found : store.entity? ⟨mutation.table, metadata.id⟩ = some copy) :
      RefusesItem store mutation
        (.uniqueViolation entityKeyColumns (mutation.table ++ "/" ++ metadata.id))

/-- Why an edit is refused. The queue speaks first, by `coalesceKinds`, and then `RefusesItem`. -/
inductive Refuses (store : Store) (mutation : Mutation) : StoreError → Prop where
  | queue {refusal : CoalesceError} (refused : store.transition mutation = .error refusal) :
      Refuses store mutation (.coalesce refusal)
  | item {step : KindTransition} {fault : StoreError}
      (follows : store.transition mutation = .ok step) (refused : store.RefusesItem mutation fault) :
      Refuses store mutation fault

variable {store queued after : Store} {mutation : Mutation} {now : Instant}
  {fault : StoreError} {outcome : EnqueueOutcome}

/-! ### The item -/

/-- An edit is not written by `applyEdit` for the reasons that `RefusesItem` lists. -/
theorem applyEdit_eq_error :
    store.applyEdit mutation = .error fault ↔ store.RefusesItem mutation fault := by
  constructor
  · intro refused
    unfold applyEdit at refused
    split at refused
    · cases refused
    · rename_i kind keeps
      split at refused
      · rename_i garbled
        cases refused
        exact .unread keeps garbled
      · rename_i document read
        split at refused
        · rename_i creates
          rcases addEntity_eq_error.mp refused with
            ⟨invalid, unusable, rfl⟩ | ⟨metadata, copy, usable, found, rfl⟩
          · exact .unusable keeps read unusable
          · exact .taken creates read usable found
        · obtain ⟨invalid, unusable, rfl⟩ := putEntity_eq_error.mp refused
          exact .unusable keeps read unusable
  · intro refused
    cases refused with
    | unread keeps garbled =>
      cases kind : mutation.kind with
      | delete => exact absurd kind keeps
      | add | replace => simp [applyEdit, kind, garbled]
    | unusable keeps read invalid =>
      cases kind : mutation.kind with
      | delete => exact absurd kind keeps
      | add =>
        simp only [applyEdit, kind, read, if_true]
        exact addEntity_eq_error.mpr (.inl ⟨_, invalid, rfl⟩)
      | replace =>
        simp only [applyEdit, kind, read, reduceCtorEq, if_false]
        exact putEntity_eq_error.mpr ⟨_, invalid, rfl⟩
    | taken creates read usable found =>
      simp only [applyEdit, creates, read, if_true]
      exact addEntity_eq_error.mpr (.inr ⟨_, _, usable, found, rfl⟩)

/-- What admits an item refuses it for no reason, and the other way round. -/
theorem admitsItem_iff : store.AdmitsItem mutation ↔ ∀ fault, ¬ store.RefusesItem mutation fault := by
  constructor
  · intro admits fault refused
    cases refused with
    | unread keeps garbled =>
      obtain ⟨_, _, read, -⟩ := admits keeps
      cases garbled.symm.trans read
    | unusable keeps read invalid =>
      obtain ⟨_, _, again, usable, -⟩ := admits keeps
      cases read.symm.trans again
      cases invalid.symm.trans usable
    | taken creates read usable found =>
      obtain ⟨_, _, again, same, free⟩ := admits (by simp [creates])
      cases read.symm.trans again
      cases usable.symm.trans same
      cases found.symm.trans (free creates)
  · intro never keeps
    cases read : Document.read mutation.item with
    | none => exact absurd (.unread keeps read) (never _)
    | some document =>
      cases usable : EntityMetadata.ofDocument document with
      | error fault => exact absurd (.unusable keeps read usable) (never _)
      | ok metadata =>
        refine ⟨document, metadata, rfl, usable, fun creates => ?_⟩
        by_contra taken
        obtain ⟨copy, found⟩ := Option.ne_none_iff_exists'.mp taken
        exact never _ (.taken creates read usable found)

/-! ### The queue -/

/-- The queue refuses an edit, in `enqueue`, by the kinds alone. -/
theorem enqueue_eq_error (now : Instant) :
    store.enqueue mutation now = .error fault ↔
      ∃ refusal, store.transition mutation = .error refusal ∧ .coalesce refusal = fault := by
  have planned (refusal : CoalesceError) :
      coalesce (store.openOperation? mutation.table mutation.itemId) mutation
          (store.lastSequence + 1) now = .error refusal ↔
        store.transition mutation = .error refusal := coalesce_eq_error
  simp only [enqueue, ← planned]
  cases coalesce (store.openOperation? mutation.table mutation.itemId) mutation
    (store.lastSequence + 1) now <;> simp

/-- The queue takes an edit by the kinds alone. -/
theorem enqueue_isOk (now : Instant) :
    (∃ outcome queued, store.enqueue mutation now = .ok (outcome, queued)) ↔
      ∃ step, store.transition mutation = .ok step := by
  cases follows : store.transition mutation with
  | error refusal =>
    have refused := (enqueue_eq_error now).mpr ⟨refusal, follows, rfl⟩
    simp [refused]
  | ok step =>
    cases enqueued : store.enqueue mutation now with
    | error fault =>
      obtain ⟨refusal, refused, -⟩ := (enqueue_eq_error now).mp enqueued
      cases follows.symm.trans refused
    | ok result => exact ⟨fun _ => ⟨step, rfl⟩, fun _ => ⟨result.1, result.2, rfl⟩⟩

/-- A queued edit has changed the queue: by an operation more or less, or by a revision. -/
theorem Enqueues.queue_ne (enqueues : store.Enqueues mutation now queued) :
    queued.queue ≠ store.queue := by
  intro same
  cases enqueues with
  | created free => simp [appendOperation] at same
  | @merged present kind found transition =>
    have member := (mem_of_openOperation? found).1
    change store.queue.map _ = store.queue at same
    have kept := List.map_inj_left.mp (same.trans (List.map_id _).symm) present member
    have revised := congrArg Operation.revision kept
    simp [Operation.merge] at revised
  | @cancelled present found creates deletes =>
    have member := (mem_of_openOperation? found).1
    change store.queue.filter _ = store.queue at same
    have kept := List.filter_eq_self.mp same present member
    simp at kept

/-! ### The edit -/

theorem refusesItem_congr (same : queued.entities = store.entities) :
    queued.RefusesItem mutation fault ↔ store.RefusesItem mutation fault := by
  have copies (key : EntityKey) : queued.entity? key = store.entity? key := by
    rw [entity?, same, entity?]
  constructor
  · intro refused
    cases refused with
    | unread keeps garbled => exact .unread keeps garbled
    | unusable keeps read invalid => exact .unusable keeps read invalid
    | taken creates read usable found => exact .taken creates read usable ((copies _).symm.trans found)
  · intro refused
    cases refused with
    | unread keeps garbled => exact .unread keeps garbled
    | unusable keeps read invalid => exact .unusable keeps read invalid
    | taken creates read usable found => exact .taken creates read usable ((copies _).trans found)

/-- An edit is refused by `recordLocalMutation` for the reasons that `Refuses` lists, and for no
other. -/
theorem recordLocalMutation_eq_error (now : Instant) :
    store.recordLocalMutation mutation now = .error fault ↔ store.Refuses mutation fault := by
  unfold recordLocalMutation
  rw [bind_eq_error, enqueue_eq_error]
  constructor
  · rintro (⟨refusal, refused, rfl⟩ | ⟨⟨outcome, queued⟩, enqueued, refused⟩)
    · exact .queue refused
    · obtain ⟨step, follows⟩ := (enqueue_isOk now).mp ⟨outcome, queued, enqueued⟩
      rcases bind_eq_error.mp refused with unwritten | ⟨after, -, impossible⟩
      · have same := (enqueues_of_enqueue enqueued).entities
        exact .item follows ((refusesItem_congr same).mp (applyEdit_eq_error.mp unwritten))
      · cases impossible
  · intro refused
    cases refused with
    | queue refused => exact .inl ⟨_, refused, rfl⟩
    | item follows refused =>
      obtain ⟨outcome, queued, enqueued⟩ := (enqueue_isOk now).mpr ⟨_, follows⟩
      have same := (enqueues_of_enqueue enqueued).entities
      have unwritten := applyEdit_eq_error.mpr ((refusesItem_congr same).mpr refused)
      exact .inr ⟨(outcome, queued), enqueued, bind_eq_error.mpr (.inl unwritten)⟩

/-- An edit is admitted if there is no reason to refuse it. -/
theorem admits_iff : store.Admits mutation ↔ ∀ fault, ¬ store.Refuses mutation fault := by
  constructor
  · rintro ⟨⟨step, follows⟩, item⟩ fault refused
    cases refused with
    | queue refused => cases follows.symm.trans refused
    | item _ refused => exact admitsItem_iff.mp item fault refused
  · intro never
    cases follows : store.transition mutation with
    | error refusal => exact absurd (.queue follows) (never _)
    | ok step => exact ⟨⟨step, follows⟩, admitsItem_iff.mpr fun fault refused =>
        never fault (.item follows refused)⟩

/-- An edit is accepted if it is admitted. -/
theorem recordLocalMutation_isOk (now : Instant) :
    (∃ outcome after, store.recordLocalMutation mutation now = .ok (outcome, after)) ↔
      store.Admits mutation := by
  simp only [admits_iff, ← recordLocalMutation_eq_error now]
  cases store.recordLocalMutation mutation now with
  | error fault => simp
  | ok result => exact ⟨fun _ => nofun, fun _ => ⟨result.1, result.2, rfl⟩⟩

/-- The store as the transaction of an edit sees it, after each change that it makes. -/
def workingCopies (store : Store) (mutation : Mutation) (now : Instant) : List Store :=
  match store.enqueue mutation now with
  | .error _ => []
  | .ok (_, queued) =>
    match queued.applyEdit mutation with
    | .error _ => [queued]
    | .ok written => [queued, written]

/-- Every change that the transaction of an edit makes shows in the queue. -/
theorem workingCopies_queue_ne {copy : Store} (made : copy ∈ store.workingCopies mutation now) :
    copy.queue ≠ store.queue := by
  unfold workingCopies at made
  cases enqueued : store.enqueue mutation now with
  | error fault => simp [enqueued] at made
  | ok result =>
    obtain ⟨outcome, queued⟩ := result
    have changed := (enqueues_of_enqueue enqueued).queue_ne
    cases applied : queued.applyEdit mutation with
    | error fault =>
      simp only [enqueued, applied, List.mem_singleton] at made
      exact made ▸ changed
    | ok written =>
      simp only [enqueued, applied, List.mem_cons, List.not_mem_nil, or_false] at made
      rcases made with rfl | rfl
      · exact changed
      · rwa [(writesEdit_of_applyEdit applied).differsInCopies.queue]

/-- An edit that the queue takes changes the store in its transaction: there are
`workingCopies`. -/
theorem exists_workingCopy {step : KindTransition} (follows : store.transition mutation = .ok step)
    (now : Instant) : ∃ copy, copy ∈ store.workingCopies mutation now := by
  obtain ⟨outcome, queued, enqueued⟩ := (enqueue_isOk now).mpr ⟨step, follows⟩
  unfold workingCopies
  simp only [enqueued]
  cases queued.applyEdit mutation with
  | error fault => exact ⟨_, List.mem_singleton_self _⟩
  | ok written => exact ⟨_, List.mem_cons_self⟩

/-- An accepted edit was queued and then written. -/
theorem workingCopies_of_recorded
    (recorded : store.recordLocalMutation mutation now = .ok (outcome, after)) :
    ∃ queued, store.workingCopies mutation now = [queued, after] ∧
      store.Enqueues mutation now queued ∧ queued.WritesEdit mutation after := by
  simp only [recordLocalMutation, bind_eq_ok, pure_eq_ok] at recorded
  obtain ⟨⟨_, queued⟩, enqueued, written, applied, same⟩ := recorded
  cases same
  refine ⟨queued, ?_, enqueues_of_enqueue enqueued, writesEdit_of_applyEdit applied⟩
  simp only [workingCopies, enqueued, applied]

/-- An edit of a reachable store is accepted exactly if the store `Admits` it. It is refused
for the reasons that `Refuses` lists alone, and by the queue before anything else. A refused edit
leaves the store as it was, though the queue in the transaction was changed whenever the queue took
the edit; an accepted one is both queued and written. -/
theorem accepted_iff_admits (reachable : store.Reachable)
    {answer : Except StoreError EnqueueOutcome} {database : Database}
    (recorded : (Database.opened store).transact
      (fun store => store.recordLocalMutationIndexed mutation now) = (answer, database)) :
    ((∃ outcome, answer = .ok outcome) ↔ store.Admits mutation) ∧
      (∀ fault, answer = .error fault ↔ store.Refuses mutation fault) ∧
      (∀ refusal, store.transition mutation = .error refusal →
        answer = .error (.coalesce refusal)) ∧
      (∀ fault, answer = .error fault → database = .opened store ∧
        ∀ step, store.transition mutation = .ok step →
          ∃ copy ∈ store.workingCopies mutation now, copy.queue ≠ store.queue) ∧
      ∀ outcome, answer = .ok outcome → ∃ queued written, database = .opened written ∧
        store.workingCopies mutation now = [queued, written] ∧
        store.Enqueues mutation now queued ∧ queued.WritesEdit mutation written := by
  rw [Database.transact, reachable.queueSound.recordLocalMutationIndexed_eq] at recorded
  have admitted : _ ↔ store.Admits mutation := recordLocalMutation_isOk now
  cases result : store.recordLocalMutation mutation now with
  | error fault =>
    have refused (other : StoreError) :
        (.error fault : Except StoreError EnqueueOutcome) = .error other ↔
          store.Refuses mutation other := by
      rw [← recordLocalMutation_eq_error now, result, Except.error.injEq, Except.error.injEq]
    rw [result] at recorded admitted
    obtain ⟨rfl, rfl⟩ := Prod.mk.inj recorded
    refine ⟨?_, refused, fun refusal first => (refused _).mpr (.queue first), ?_, ?_⟩
    · simpa using admitted
    · refine fun _ _ => ⟨rfl, fun step follows => ?_⟩
      obtain ⟨copy, made⟩ := exists_workingCopy follows now
      exact ⟨copy, made, workingCopies_queue_ne made⟩
    · intro outcome impossible
      cases impossible
  | ok accepted =>
    obtain ⟨outcome, written⟩ := accepted
    have never (fault : StoreError) : ¬ store.Refuses mutation fault := by
      rw [← recordLocalMutation_eq_error now, result]
      exact nofun
    rw [result] at recorded admitted
    obtain ⟨rfl, rfl⟩ := Prod.mk.inj recorded
    refine ⟨?_, fun fault => ?_, fun refusal first => absurd (.queue first) (never _), ?_, ?_⟩
    · simpa using admitted
    · exact iff_of_false (by simp) (never fault)
    · intro fault impossible
      cases impossible
    · obtain ⟨queued, copies, enqueues, writes⟩ := workingCopies_of_recorded result
      exact fun _ _ => ⟨queued, written, rfl, copies, enqueues, writes⟩

namespace Stray

/-- The creation of a third entity, with the item of the second. -/
def mistaken : Mutation := { edit "2" with itemId := "3" }

theorem follows_mistaken : created.transition mistaken = .ok (.create .add) := by
  rfl

theorem refuses_mistaken :
    created.Refuses mistaken (.uniqueViolation entityKeyColumns "todo/2") := by
  have read : Document.read mistaken.item = some (entity "2") := read_render_entity "2"
  have usable : EntityMetadata.ofDocument (entity "2") = .ok ⟨"2", none, none, false⟩ := rfl
  have found : created.entity? ⟨"todo", "2"⟩ = some (copy "2").2 := by
    simp [entity?, created, copy, KeyedList.get?]
  have name : "todo" ++ "/" ++ "2" = "todo/2" := by decide
  have refused : created.RefusesItem mistaken
      (.uniqueViolation entityKeyColumns ("todo" ++ "/" ++ "2")) := .taken rfl read usable found
  rw [name] at refused
  exact .item follows_mistaken refused

end Stray

/-- A creation under a free identity is queued, and refused as the item is another entity's:
nothing of it stays. -/
theorem accepted_iff_admits_mistaken :
    (Database.opened Stray.created).transact
        (fun store => store.recordLocalMutationIndexed Stray.mistaken ⟨0, 0⟩) =
          (.error (.uniqueViolation entityKeyColumns "todo/2"), .opened Stray.created) ∧
      ∃ copy ∈ Stray.created.workingCopies Stray.mistaken ⟨0, 0⟩,
        copy.queue ≠ Stray.created.queue := by
  generalize recorded : (Database.opened Stray.created).transact
    (fun store => store.recordLocalMutationIndexed Stray.mistaken ⟨0, 0⟩) = result
  obtain ⟨answer, database⟩ := result
  obtain ⟨-, refused, -, undone, -⟩ := accepted_iff_admits Stray.reachable_created recorded
  have told := (refused _).mpr Stray.refuses_mistaken
  obtain ⟨same, changed⟩ := undone _ told
  exact ⟨Prod.ext told same, changed _ Stray.follows_mistaken⟩

end Store

end OfflineSync
