import OfflineSync.Proofs.Sync.Accounting
import OfflineSync.Proofs.Sync.Workers

/-!
# Cancelled pushes

A push looks at the caller's signal only before it takes up an operation. So a push that is
cancelled settles what it has taken up as any push does, resubmissions included, and leaves every
other operation as it was. Without the signal the same steps (`Crew.uncancelled`) are a part of a
push that settles every operation listed. `Follows` carries that along the steps of the crew.
-/

namespace OfflineSync

/-! ### The signal decides nothing else -/

namespace Run

variable {σ : Type}

/-- A run that nobody can cancel. -/
def uncancelled (run : Run σ) : Run σ :=
  { run with signal := .never }

/-- The signal has no part in a request and its answer. -/
theorem send_uncancelled (remote : Remote σ) (run : Run σ) (request : Request) :
    run.uncancelled.send remote request =
      ((run.send remote request).1, (run.send remote request).2.uncancelled) := by
  dsimp only [send, uncancelled, CancelSignal.fire]
  split <;> rfl

theorem sendOperation_uncancelled (remote : Remote σ) (run : Run σ) (operation : Operation)
    (forced : Bool) : run.uncancelled.sendOperation remote operation forced =
      ((run.sendOperation remote operation forced).1,
        (run.sendOperation remote operation forced).2.uncancelled) := by
  unfold sendOperation
  cases operation.request forced with
  | error fault => rfl
  | ok request => simp only [send_uncancelled]

/-- A worker does what it does whether or not the caller has cancelled. -/
theorem workOn_uncancelled (remote : Remote σ) (policy : Option ConflictPolicy) (run : Run σ)
    (operation : Operation) (stage : Stage) :
    run.uncancelled.workOn remote policy operation stage =
      ((run.workOn remote policy operation stage).1,
        (run.workOn remote policy operation stage).2.uncancelled) := by
  unfold workOn
  cases stage with
  | begun =>
    simp only [sendOperation_uncancelled]
    rcases run.sendOperation remote operation false with ⟨refused | answer, next⟩
    · rfl
    · dsimp only
      cases firstVerdict policy operation answer <;> rfl
  | resending =>
    simp only [sendOperation_uncancelled]
    rcases run.sendOperation remote operation true with ⟨refused | answer, next⟩ <;> rfl
  | concluded conclusion => rfl

end Run

namespace Crew

variable {σ : Type} {remote : Remote σ} {policies : PolicyChoice} {workers : Nat}
  {crew next : Crew σ}

/-- A push as it stands, that nobody has cancelled or can cancel. -/
def uncancelled (crew : Crew σ) : Crew σ :=
  { crew with run := crew.run.uncancelled, stopped := false }

/-- What happens in a push that is cancelled happens without the signal too: a `Step` is one of
the push that nobody cancels. -/
theorem Step.uncancelled (step : Step remote policies workers crew next) :
    Leads remote policies workers crew.uncancelled next.uncancelled := by
  cases step with
  | takenUp waits goesOn uncancelled free => exact .single (.takenUp waits rfl rfl free)
  | @worked before after operation stage held unconcluded =>
    have works : Step remote policies workers crew.uncancelled
        (crew.uncancelled.withWork before after operation
          (crew.run.uncancelled.workOn remote (policies operation.table) operation stage)) :=
      .worked held unconcluded
    rw [Run.workOn_uncancelled] at works
    exact .single works
  | settled held => exact .single (.settled held)
  | cancelled => exact .refl
  | stopped waits fired => exact .refl

end Crew

/-! ### What was not taken up -/

/-- Whether nobody edits the entity of an operation while a remote is asked. -/
def Remote.Spares {σ : Type} (remote : Remote σ) (operation : Operation) : Prop :=
  ∀ request state, ∀ edit ∈ (remote request state).1.edits, ∀ mutation,
    Mutation.ofEdit edit = .ok mutation → ¬ mutation.Concerns operation

namespace Store

variable {before after store : Store} {sent operation : Operation} {key : EntityKey} {now : Instant}

/-- What is queued beside an entity stays queued as it is (`SameBeside`). -/
theorem SameBeside.mem (beside : SameBeside key before after) (queued : operation ∈ before.queue)
    (other : keyOf operation ≠ key) : operation ∈ after.queue := by
  have apart : operation ∈ before.rowsBeside key := by
    refine List.mem_filter.mpr ⟨queued, ?_⟩
    rw [Bool.not_eq_true', Bool.eq_false_iff]
    exact fun belongs => other (isFor_iff_keyOf.mp belongs)
  rw [← beside.rows] at apart
  exact (List.mem_filter.mp apart).1

/-- Edits, as `editAll` makes them, are calls on the store one after the other. -/
theorem leads_editAll (store : Store) (now : Instant) (edits : List Edit) :
    Relation.ReflTransGen Step store (store.editAll now edits).2 := by
  refine editAll_induction (motive := Relation.ReflTransGen Step store) .refl ?_
  intro edit _ mutation _ before outcome after leads recorded
  exact leads.tail (.edited recorded)

/-- Edits of other entities leave an operation as it is. -/
theorem mem_editAll {edits : List Edit} (sound : store.QueueSound)
    (queued : operation ∈ store.queue) (spared : ∀ edit ∈ edits, ∀ mutation,
      Mutation.ofEdit edit = .ok mutation → ¬ mutation.Concerns operation) :
    operation ∈ (store.editAll now edits).2.queue := by
  have kept : (store.editAll now edits).2.QueueSound ∧
      operation ∈ (store.editAll now edits).2.queue := by
    refine editAll_induction (motive := fun store => store.QueueSound ∧ operation ∈ store.queue)
      ⟨sound, queued⟩ ?_
    rintro edit among mutation described before outcome after ⟨sound, queued⟩ recorded
    obtain ⟨enqueued, enqueues, writes⟩ := recordLocalMutation_eq_ok recorded
    have other : keyOf operation ≠ ⟨mutation.table, mutation.itemId⟩ := by
      intro same
      have concerned : mutation.Concerns operation :=
        ⟨(congrArg EntityKey.table same).symm, (congrArg EntityKey.id same).symm⟩
      exact spared edit among mutation described concerned
    refine ⟨(Step.edited recorded).queueSound sound, ?_⟩
    rw [writes.differsInCopies.queue]
    exact (enqueues.sameBeside sound).mem queued other
  exact kept.2

end Store

namespace Crew

variable {σ : Type} {remote : Remote σ} {policies : PolicyChoice} {workers : Nat}
  {crew next ending : Crew σ} {start : Store} {tables : List String} {run : Run σ}

/-- Whether a push of some tables stands as one that began with a store: calls have led
there, and the operations that wait are queued as they were, apart from edits. -/
structure Follows (remote : Remote σ) (start : Store) (tables : List String) (crew : Crew σ) :
    Prop extends FollowsList (start.listOpen tables) crew where
  leads : Relation.ReflTransGen Store.Step start crew.run.store
  kept : ∀ operation ∈ crew.waiting, remote.Spares operation →
    operation ∈ crew.run.store.queue

namespace Follows

/-- Each step leaves what waits as it was. -/
theorem step (follows : Follows remote start tables crew) (sound : start.QueueSound)
    (happens : Step remote policies workers crew next) : Follows remote start tables next := by
  have list := follows.toFollowsList.step happens
  obtain ⟨nowSound, -⟩ := Store.descends_of_leads follows.leads sound
  cases happens with
  | takenUp waits goesOn uncancelled free =>
    refine ⟨list, follows.leads, fun operation still spared => ?_⟩
    exact follows.kept operation (waits ▸ List.mem_cons_of_mem _ still) spared
  | @worked before after operation stage held unconcluded =>
    rcases crew.run.run_workOn remote (policies operation.table) operation stage with
      same | ⟨request, sent⟩
    · refine ⟨list, ?_, ?_⟩
      · simp only [withWork, same]
        exact follows.leads
      · simp only [withWork, same]
        exact follows.kept
    · refine ⟨list, ?_, fun waiting still spared => ?_⟩
      · simp only [withWork, sent]
        exact follows.leads.trans (Store.leads_editAll _ _ _)
      · simp only [withWork, sent]
        exact Store.mem_editAll nowSound (follows.kept waiting still spared)
          (spared request crew.run.remote)
  | @settled before after operation conclusion held =>
    have among : (operation, Stage.concluded conclusion) ∈ crew.inHand :=
      held ▸ List.mem_append_cons_self
    have listed := follows.listed_of_inHand among
    have own := Store.findsOwn_of_leads sound listed follows.leads
    refine ⟨list, ?_, fun waiting still spared => ?_⟩
    · exact follows.leads.trans (Store.leads_conclude _ _ _ _)
    · refine (Store.sameBeside_conclude nowSound own conclusion crew.run.now).mem
        (follows.kept waiting still spared) fun same => ?_
      have waitingListed : waiting ∈ start.listOpen tables :=
        follows.perm.mem_iff.mpr (List.mem_append_left _ still)
      obtain ⟨queued, isOpen⟩ := Store.mem_of_listOpen listed
      obtain ⟨waitingQueued, waitingOpen⟩ := Store.mem_of_listOpen waitingListed
      cases sound.eq_of_open waitingQueued queued waitingOpen isOpen
        ⟨congrArg EntityKey.table same, congrArg EntityKey.id same⟩
      exact follows.not_waiting among sound.nodup_listOpen still
  | cancelled => exact ⟨list, follows.leads, follows.kept⟩
  | stopped waits fired => exact ⟨list, follows.leads, follows.kept⟩

end Follows

end Crew

namespace Removals

/-- The push of all tables that meets this remote. -/
def interrupted : Run Bool := ⟨start, false, .waiting, [], ⟨0, 0⟩⟩

end Removals

end OfflineSync
