import OfflineSync.Proofs.Store.Confinement
import OfflineSync.Sync.Push

/-!
# How an operation ends

The conclusion of an operation that is still as it was sent is written to the queue in one of two
ways, which `Store.Concludes` lists. Either no failure is reported and the operation is open no
longer, or one is reported and the operation stays open as it was, apart from what the attempt left
on it (`Operation.Retains`). Whatever the remote answers and whatever the store rejects, all other
operations stay, `SameOthers`.
-/

namespace OfflineSync

/-- Whether an operation is another one after an attempt: nothing differs but its state
and what the attempt has left on it. -/
structure Operation.Retains (after before : Operation) : Prop extends SameRow before after where
  kind : after.kind = before.kind
  payload : after.payload = before.payload
  entityVersion : after.entityVersion = before.entityVersion
  revision : after.revision = before.revision

namespace Store

/-- Whether two stores have the same operations, apart from those under one identity, as before and
after an operation `Concludes`. -/
def SameOthers (id : String) (before after : Store) : Prop :=
  ∀ row : Operation, row.id ≠ id → (row ∈ after.queue ↔ row ∈ before.queue)

/-- How an operation that is still as it was sent ends: by the failure that is reported, if
any, and the store that the conclusion leaves. -/
inductive Concludes (store : Store) (sent : Operation) : Option PushFailure → Store → Prop where
  | settled {next : Store} (others : SameOthers sent.id store next)
      (closed : ∀ row ∈ next.queue, row.id = sent.id →
        Operation.SameRow sent row ∧ ¬ row.isOpen) :
      Concludes store sent none next
  | failed {next : Store} {row : Operation} (failure : PushFailure)
      (others : SameOthers sent.id store next) (queued : row ∈ next.queue) (isOpen : row.isOpen)
      (retains : row.Retains sent) : Concludes store sent (some failure) next

variable {store adopted next : Store} {sent : Operation} {body : Option Document}
  {version : Option String} {now : Instant} {settlement : Settlement} {id : String}

namespace Concludes

/-- However an operation ends, all others stay (`SameOthers`). -/
theorem others {failure : Option PushFailure} (concludes : store.Concludes sent failure next) :
    SameOthers sent.id store next := by
  cases concludes with
  | settled others closed => exact others
  | failed failure others queued isOpen retains => exact others

end Concludes

namespace SameOthers

theorem refl (id : String) (store : Store) : SameOthers id store store :=
  fun _ _ => Iff.rfl

/-- Local copies have no part in the queue. -/
theorem of_differs (differs : DiffersInCopies store next) : SameOthers id store next := by
  intro row _
  rw [differs.queue]

theorem trans {middle : Store} (first : SameOthers id store middle)
    (second : SameOthers id middle next) : SameOthers id store next :=
  fun row other => (second row other).trans (first row other)

/-- A removed operation leaves all others: `removeOperation` filters by identity. -/
theorem removeOperation (id : String) (store : Store) :
    SameOthers id store (store.removeOperation id) := by
  intro row other
  rw [mem_removeOperation]
  exact and_iff_left other

/-- An updated operation that keeps its identity leaves all others. -/
theorem updateOperation {change : Operation → Operation} (keeps : ∀ row, (change row).id = row.id) :
    SameOthers id store (store.updateOperation id change) := by
  intro row other
  rw [mem_updateOperation]
  constructor
  · rintro ⟨present, queued, rfl⟩
    by_cases same : present.id = id
    · rw [if_pos (beq_iff_eq.mpr same), keeps] at other
      exact absurd same other
    · rwa [if_neg (mt beq_iff_eq.mp same)]
  · intro queued
    exact ⟨row, queued, if_neg (mt beq_iff_eq.mp other)⟩

end SameOthers

section Sent

variable (sound : store.QueueSound) (found : store.operation? sent.id = some sent)
include found

/-- A success settles an operation that is still as it was sent. -/
theorem CompletesPush.concludes
    (completes : store.CompletesPush sent body version now settlement next) :
    store.Concludes sent none next := by
  cases completes with
  | rebased other newer rebased =>
    cases found.symm.trans other
    exact absurd rfl newer
  | settled _ same adopts =>
    refine .settled ((SameOthers.of_differs (differs_adoptAnswer adopts)).trans
      (.removeOperation _ _)) fun row remains named => ?_
    exact absurd named (mem_removeOperation.mp remains).2
  | vanished gone | recreated gone | undone gone => cases found.symm.trans gone

include sound in
/-- An operation that is marked as completed by `markCompleted` is open no longer. -/
theorem concludes_markCompleted (differs : DiffersInCopies store adopted) :
    store.Concludes sent none (adopted.markCompleted sent.id now) := by
  refine .settled ((SameOthers.of_differs differs).trans (.updateOperation fun _ => rfl)) ?_
  intro row queued named
  obtain ⟨present, presentQueued, rfl⟩ := mem_updateOperation.mp queued
  by_cases same : present.id = sent.id
  · rw [differs.queue] at presentQueued
    cases sound.eq_of_id presentQueued (mem_of_operation? found).1 same
    rw [if_pos (beq_self_eq_true _)]
    exact ⟨⟨rfl, rfl, rfl, rfl, rfl, rfl⟩, by simp [Operation.isOpen]⟩
  · rw [if_neg (mt beq_iff_eq.mp same)] at named
    exact absurd named same

include sound in
/-- A conflict that is conceded settles an operation that is still as it was sent. -/
theorem SettlesWithServer.concludes {document : Document} {metadata : EntityMetadata}
    (settles : store.SettlesWithServer sent document metadata now settlement next) :
    store.Concludes sent none next := by
  cases settles with
  | rebased other newer rebased =>
    cases found.symm.trans other
    exact absurd rfl newer
  | removed _ same deleted => exact concludes_markCompleted sound found differs_removeEntity
  | adopted _ same live merges =>
    exact concludes_markCompleted sound found (differs_mergeEntity merges)
  | vanished gone => cases found.symm.trans gone

variable (isOpen : sent.isOpen)
include isOpen

/-- A failure that cannot be written leaves the operation as it was. -/
theorem concludes_unwritten (failure : PushFailure) : store.Concludes sent (some failure) store :=
  .failed failure (.refl _ _) (mem_of_operation? found).1 isOpen
    ⟨.refl sent, rfl, rfl, rfl, rfl⟩

/-- A failure noted by `noteFailure` leaves an operation open that is still as it was sent; the
operation then `Retains` all else. -/
theorem concludes_noteFailure (failure noted : PushFailure) :
    store.Concludes sent (some failure) (store.noteFailure sent noted now) := by
  unfold noteFailure
  split
  · rename_i marked next recorded
    cases recordsFailure_of_recordFailure recorded with
    | unmarked changed => exact absurd rfl (changed sent found)
    | marked other same alone =>
      refine .failed failure (.updateOperation fun _ => rfl)
        (mem_updateOperation.mpr ⟨sent, (mem_of_operation? found).1, if_pos (beq_self_eq_true _)⟩)
        rfl ⟨⟨rfl, rfl, rfl, rfl, rfl, rfl⟩, rfl, rfl, rfl, rfl⟩
  · exact concludes_unwritten found isOpen failure

include sound in
/-- An operation that is still as it was sent is settled or has failed, whatever its conclusion
is: `Store.conclude` does what `Concludes` tells. -/
theorem concludes_of_conclude (conclusion : Conclusion) (now : Instant) :
    store.Concludes sent (store.conclude sent conclusion now).1
      (store.conclude sent conclusion now).2 := by
  unfold conclude
  cases conclusion with
  | accepted status body version =>
    dsimp only
    split
    · rename_i completed
      exact (completesPush_of_completePush completed).concludes found
    · exact concludes_unwritten found isOpen _
  | adopted status body =>
    dsimp only
    split
    · rename_i settled
      obtain ⟨document, metadata, -, settles⟩ := settlesWithServer_of_settleWithServer settled
      exact settles.concludes sound found
    · exact concludes_noteFailure found isOpen _ _
  | failed failure => exact concludes_noteFailure found isOpen _ _

end Sent

/-- A conclusion leaves the queue sound. -/
theorem QueueSound.conclude (sound : store.QueueSound) (sent : Operation)
    (conclusion : Conclusion) (now : Instant) :
    (store.conclude sent conclusion now).2.QueueSound := by
  have noted (failure : PushFailure) : (store.noteFailure sent failure now).QueueSound := by
    unfold noteFailure
    split
    · rename_i recorded
      exact (recordsFailure_of_recordFailure recorded).queueSound sound
    · exact sound
  unfold Store.conclude
  cases conclusion with
  | accepted status body version =>
    dsimp only
    split
    · rename_i completed
      exact (completesPush_of_completePush completed).queueSound sound
    · exact sound
  | adopted status body =>
    dsimp only
    split
    · rename_i settled
      exact (Step.conceded settled).queueSound sound
    · exact noted _
  | failed failure => exact noted failure

/-- A conclusion writes nothing, or a result about the operation that was sent (`receive`). -/
theorem receive_of_conclude (store : Store) (sent : Operation) (conclusion : Conclusion)
    (now : Instant) : (store.conclude sent conclusion now).2 = store ∨
      ∃ outcome, store.receive sent outcome now = .ok (store.conclude sent conclusion now).2 := by
  have noted (failure : PushFailure) : store.noteFailure sent failure now = store ∨
      ∃ outcome, store.receive sent outcome now = .ok (store.noteFailure sent failure now) := by
    unfold noteFailure
    cases recorded : store.recordFailure sent (failure.status.map Int.ofNat) failure.message now with
    | error fault => exact .inl rfl
    | ok result =>
      refine .inr ⟨.refused (failure.status.map Int.ofNat) failure.message, ?_⟩
      exact map_eq_ok.mpr ⟨result, recorded, rfl⟩
  unfold conclude
  cases conclusion with
  | accepted status body header =>
    dsimp only
    cases completed : store.completePush sent body header now with
    | error fault => exact .inl rfl
    | ok result => exact .inr ⟨.accepted body header, map_eq_ok.mpr ⟨result, completed, rfl⟩⟩
  | adopted status body =>
    dsimp only
    cases settled : store.settleWithServer sent body now with
    | error fault => exact noted _
    | ok result => exact .inr ⟨.conceded body, map_eq_ok.mpr ⟨result, settled, rfl⟩⟩
  | failed failure => exact noted failure

/-- A conclusion reaches the operations of the entity sent alone (`SameBeside`). -/
theorem sameBeside_conclude (sound : store.QueueSound) (own : store.FindsOwn sent)
    (conclusion : Conclusion) (now : Instant) :
    SameBeside (keyOf sent) store (store.conclude sent conclusion now).2 := by
  rcases receive_of_conclude store sent conclusion now with same | ⟨outcome, received⟩
  · rw [same]
    exact .refl store
  · cases receives_of_receive received with
    | accepted completes => exact completes.sameBeside sound own
    | conceded described settles => exact settles.sameBeside sound own
    | refused records => exact records.sameBeside own

/-- A conclusion is one call on the store at most. -/
theorem leads_conclude (store : Store) (sent : Operation) (conclusion : Conclusion)
    (now : Instant) :
    Relation.ReflTransGen Step store (store.conclude sent conclusion now).2 := by
  rcases receive_of_conclude store sent conclusion now with same | ⟨outcome, received⟩
  · rw [same]
  · exact .single (step_of_receive received)

end Store

end OfflineSync
