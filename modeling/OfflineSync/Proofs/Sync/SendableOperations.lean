import OfflineSync.Proofs.Store.Copies
import OfflineSync.Proofs.Store.Mirroring
import OfflineSync.Proofs.Sync.Conversations
import OfflineSync.Proofs.Sync.OutboxAgreement

/-!
# Every recorded operation can be sent

Kind and payload of an operation change apart: a merged edit rewrites both, and rebasing changes the
kind alone. They fit together all the same, `Operation.Sendable`. So long as edits are `Recorded` of
entities under their own identities, an operation has a payload exactly if it does not remove its
entity, and the payload is the entity that it names.
-/

namespace OfflineSync

/-- Whether the item of an edit is the entity that the edit names. Only an edit that does
not remove its entity needs one. -/
def Mutation.Describes (mutation : Mutation) : Prop :=
  mutation.kind ≠ .delete →
    ∃ document, Document.read mutation.item = some document ∧ document.IsEntity mutation.itemId

namespace Operation

/-- Whether the payload of an operation fits its kind and the entity that it names. -/
structure Sendable (operation : Operation) : Prop where
  payload : operation.payload = none ↔ operation.kind = .delete
  entity : ∀ text, operation.payload = some text →
    ∃ document, Document.read text = some document ∧ document.IsEntity operation.itemId

variable {operation present : Operation} {mutation : Mutation} {forced : Bool}

/-- What carries an edit (`Carries`) sends the item of the edit, if anything. -/
theorem Carries.sendable (carries : operation.Carries mutation)
    (names : operation.itemId = mutation.itemId) (describes : mutation.Describes) :
    operation.Sendable where
  payload := by rw [carries.payload, payloadFor_eq_none, carries.deletes]
  entity := by
    intro text sends
    have keeps : mutation.kind ≠ .delete := by
      intro removes
      rw [carries.payload, payloadFor_eq_none.mpr removes] at sends
      cases sends
    cases (carries.payload_eq_some keeps).symm.trans sends
    rw [names]
    exact describes keeps

namespace Sendable

/-- Rebasing makes no removal of an operation, nor anything else of a removal. -/
theorem rebase (sendable : operation.Sendable) (sent : OperationKind) (version : Option String) :
    (operation.rebase sent version).Sendable where
  payload := sendable.payload.trans Store.rebasedKind_eq_delete.symm
  entity := sendable.entity

/-- Notes on how an operation fared do not change what it sends. -/
theorem of_same (sendable : present.Sendable) (kind : operation.kind = present.kind)
    (payload : operation.payload = present.payload) (itemId : operation.itemId = present.itemId) :
    operation.Sendable where
  payload := by rw [payload, kind, sendable.payload]
  entity := by
    rw [payload, itemId]
    exact sendable.entity

/-- Anything but a removal sends the entity that the operation names, if it is `Sendable`. -/
theorem exists_body (sendable : operation.Sendable) (keeps : operation.kind ≠ .delete) :
    ∃ body, operation.payload.bind Document.read = some body ∧
      body.IsEntity operation.itemId := by
  obtain ⟨text, sends⟩ := Option.ne_none_iff_exists'.mp fun missing =>
    keeps (sendable.payload.mp missing)
  rw [sends]
  exact sendable.entity text sends

/-- There is a request of the operation, forced or not. -/
theorem exists_request (sendable : operation.Sendable) (forced : Bool) :
    ∃ request, operation.request forced = .ok request := by
  refine Operation.exists_request.mpr fun lacks => ?_
  obtain ⟨keeps, missing⟩ := unsendable_iff.mp lacks
  obtain ⟨body, sends, -⟩ := sendable.exists_body keeps
  cases missing.symm.trans sends

end Sendable

end Operation

namespace Store

/-- Whether every queued operation is `Sendable`. -/
def AllSendable (store : Store) : Prop :=
  ∀ row ∈ store.queue, row.Sendable

variable {store next : Store} {operation sent current : Operation} {mutation : Mutation}
  {body : Option Document} {version : Option String} {now : Instant} {settlement : Settlement}

/-- An edit that was written to the local copies `Describes` the entity that it names. -/
theorem WritesEdit.describes (writes : store.WritesEdit mutation next) (own : mutation.OwnsItem) :
    mutation.Describes := by
  intro keeps
  cases writes with
  | removed removes => exact absurd removes keeps
  | added kind read usable free => exact ⟨_, read, _, usable, own keeps _ read _ usable⟩
  | replaced kind read usable => exact ⟨_, read, _, usable, own keeps _ read _ usable⟩

namespace AllSendable

/-- What is queued of a sendable queue is sendable. -/
theorem of_subset (sendable : store.AllSendable) (fewer : next.queue ⊆ store.queue) :
    next.AllSendable :=
  fun row queued => sendable row (fewer queued)

theorem of_differs (sendable : store.AllSendable) (differs : DiffersInCopies store next) :
    next.AllSendable :=
  sendable.of_subset (by rw [differs.queue]; exact List.Subset.refl _)

theorem appendOperation (sendable : store.AllSendable) (fits : operation.Sendable) :
    (store.appendOperation operation).AllSendable :=
  List.forall_mem_append.mpr ⟨sendable, List.forall_mem_singleton.mpr fits⟩

/-- A revised operation takes the place of the one it revises. -/
theorem replaceOperation (sendable : store.AllSendable) (sound : store.QueueSound)
    (queued : current ∈ store.queue) (revises : operation.Revises current)
    (fits : operation.Sendable) : (store.replaceOperation operation).AllSendable := by
  intro row member
  rcases (sound.mem_replaceOperation queued revises).mp member with rfl | ⟨other, -⟩
  · exact fits
  · exact sendable row other

/-- Notes on how operations fared leave them sendable. -/
theorem updateOperation {change : Operation → Operation} {id : String}
    (sendable : store.AllSendable) (kind : ∀ row, (change row).kind = row.kind)
    (payload : ∀ row, (change row).payload = row.payload)
    (itemId : ∀ row, (change row).itemId = row.itemId) :
    (store.updateOperation id change).AllSendable := by
  intro row member
  obtain ⟨present, queued, rfl⟩ := mem_updateOperation.mp member
  split
  · exact (sendable present queued).of_same (kind present) (payload present) (itemId present)
  · exact sendable present queued

theorem rebase {kind : OperationKind} (sendable : store.AllSendable) (sound : store.QueueSound)
    (queued : current ∈ store.queue) (rebased : store.rebase current kind version = .ok next) :
    next.AllSendable := by
  have fits := (sendable current queued).rebase kind version
  have replaced := sendable.replaceOperation sound queued (current.revises_rebase kind version) fits
  exact replaced.of_differs (differs_rebase rebased)

end AllSendable

/-! ### Calls -/

/-- A queued edit is carried by what is open of its entity, and changes no other operation. -/
theorem Enqueues.allSendable (enqueues : store.Enqueues mutation now next)
    (sendable : store.AllSendable) (sound : store.QueueSound) (describes : mutation.Describes) :
    next.AllSendable := by
  cases enqueues with
  | created free =>
    exact sendable.appendOperation ((Operation.carries_ofMutation ..).sendable rfl describes)
  | @merged present kind found transition =>
    obtain ⟨queued, belongs, -⟩ := mem_of_openOperation? found
    have names : present.itemId = mutation.itemId := (Operation.isFor_iff.mp belongs).2
    have fits : (present.merge kind mutation).Sendable :=
      (Operation.carries_merge transition).sendable names describes
    exact sendable.replaceOperation sound queued (present.revises_merge kind mutation) fits
  | cancelled found creates deletes => exact sendable.of_subset List.filter_sublist.subset

/-- What follows an undone creation is a removal, which sends nothing. -/
theorem describes_followUpDelete : (followUpDelete sent version).Describes :=
  fun keeps => absurd rfl keeps

theorem CompletesPush.allSendable
    (completes : store.CompletesPush sent body version now settlement next)
    (sendable : store.AllSendable) (sound : store.QueueSound) : next.AllSendable := by
  cases completes with
  | rebased found newer rebased => exact sendable.rebase sound (mem_of_operation? found).1 rebased
  | settled found same adopts =>
    have adopted := sendable.of_differs (differs_adoptAnswer adopts)
    exact adopted.of_subset List.filter_sublist.subset
  | vanished gone keeps => exact sendable
  | recreated gone creates found rebased =>
    exact sendable.rebase sound (mem_of_openOperation? found).1 rebased
  | undone gone creates free =>
    exact sendable.appendOperation
      ((Operation.carries_ofMutation ..).sendable rfl describes_followUpDelete)

theorem SettlesWithServer.allSendable {document : Document} {metadata : EntityMetadata}
    (settles : store.SettlesWithServer sent document metadata now settlement next)
    (sendable : store.AllSendable) (sound : store.QueueSound) : next.AllSendable := by
  have closed {adopted : Store} (differs : DiffersInCopies store adopted) :
      (adopted.markCompleted sent.id now).AllSendable :=
    (sendable.of_differs differs).updateOperation (fun _ => rfl) (fun _ => rfl) (fun _ => rfl)
  cases settles with
  | rebased found newer rebased => exact sendable.rebase sound (mem_of_operation? found).1 rebased
  | removed found same deleted => exact closed differs_removeEntity
  | adopted found same live merges => exact closed (differs_mergeEntity merges)
  | vanished gone => exact sendable

theorem RecordsFailure.allSendable {status : Option Int} {reason : String} {marked : Bool}
    (records : store.RecordsFailure sent status reason now marked next)
    (sendable : store.AllSendable) : next.AllSendable := by
  cases records with
  | unmarked changed => exact sendable
  | marked found same alone =>
    exact sendable.updateOperation (fun _ => rfl) (fun _ => rfl) (fun _ => rfl)

/-- The calls of a device: edits of entities under their own identities, results of
pushes, pages of pulls, and purges. -/
inductive RecordingStep (store : Store) : Store → Prop where
  | edited {mutation : Mutation} {now : Instant} {outcome : EnqueueOutcome} {next : Store}
      (own : mutation.OwnsItem)
      (recorded : store.recordLocalMutation mutation now = .ok (outcome, next)) :
      RecordingStep store next
  | pushed {sent : Operation} {body : Option Document} {header : Option String} {now : Instant}
      {settlement : Settlement} {next : Store}
      (completed : store.completePush sent body header now = .ok (settlement, next)) :
      RecordingStep store next
  | conceded {sent : Operation} {body : Option Document} {now : Instant}
      {settlement : Settlement} {next : Store}
      (settled : store.settleWithServer sent body now = .ok (settlement, next)) :
      RecordingStep store next
  | failed {sent : Operation} {status : Option Int} {reason : String} {now : Instant}
      {marked : Bool} {next : Store}
      (noted : store.recordFailure sent status reason now = .ok (marked, next)) :
      RecordingStep store next
  | pulled (table tokenKey : String) (rows : List Document) :
      RecordingStep store (store.applyPage table tokenKey rows).2
  | cleared : RecordingStep store store.purgeCompleted.2
  | purged (table : String) (discard : Bool) : RecordingStep store (store.purgeTable table discard).2
  | reset (tokenKey : String) : RecordingStep store (store.resetWatermark tokenKey).2
  | resetTable (table : String) : RecordingStep store (store.resetTableWatermarks table).2

/-- The stores that such calls (`RecordingStep`) lead to from the empty one. -/
inductive Recorded : Store → Prop where
  | empty : Recorded empty
  | step {store next : Store} (earlier : Recorded store) (call : RecordingStep store next) :
      Recorded next

/-- A device makes no calls but those that any store takes. -/
theorem Recorded.reachable (recorded : Recorded store) : Reachable store := by
  induction recorded with
  | empty => exact .empty
  | step earlier call inductionHypothesis =>
    cases call with
    | edited own recorded => exact inductionHypothesis.step (.edited recorded)
    | pushed completed => exact inductionHypothesis.step (.pushed completed)
    | conceded settled => exact inductionHypothesis.step (.conceded settled)
    | failed noted => exact inductionHypothesis.step (.failed noted)
    | pulled table tokenKey rows => exact inductionHypothesis.applyPage table tokenKey rows
    | cleared => exact inductionHypothesis.step .cleared
    | purged table discard => exact inductionHypothesis.step (.purged table discard)
    | reset tokenKey => exact inductionHypothesis.step (.reset tokenKey)
    | resetTable table => exact inductionHypothesis.step (.resetTable table)

/-- Each of these calls leaves every operation sendable. -/
theorem RecordingStep.allSendable (call : RecordingStep store next) (sound : store.QueueSound)
    (sendable : store.AllSendable) : next.AllSendable := by
  cases call with
  | edited own recorded =>
    obtain ⟨queued, enqueues, writes⟩ := recordLocalMutation_eq_ok recorded
    have carried := enqueues.allSendable sendable sound (writes.describes own)
    exact carried.of_differs writes.differsInCopies
  | pushed completed => exact (completesPush_of_completePush completed).allSendable sendable sound
  | conceded settled =>
    obtain ⟨document, metadata, -, settles⟩ := settlesWithServer_of_settleWithServer settled
    exact settles.allSendable sendable sound
  | failed noted => exact (recordsFailure_of_recordFailure noted).allSendable sendable
  | pulled table tokenKey rows =>
    exact fun row queued => sendable row (by simpa using queued)
  | cleared => exact sendable.of_subset List.filter_sublist.subset
  | purged table discard =>
    cases discard with
    | true => exact sendable.of_subset List.filter_sublist.subset
    | false => exact sendable
  | reset tokenKey => exact sendable
  | resetTable table => exact sendable

/-- Whatever such calls lead to, every queued operation is sendable: a `Recorded` store is
`AllSendable`. -/
theorem Recorded.allSendable (recorded : Recorded store) : store.AllSendable := by
  induction recorded with
  | empty => exact fun row queued => absurd queued List.not_mem_nil
  | step earlier call inductionHypothesis =>
    exact call.allSendable earlier.reachable.queueSound inductionHypothesis

end Store

open Store in
/-- Whatever edits, results, pages and purges led to a `Recorded` store, an open operation has
a payload exactly if it does not remove its entity. There is a request of it, forced or not, which
carries the entity that the operation names unless it removes it; and so a push never concludes an
operation because of its payload. -/
theorem recorded_operation_sends {store : Store} {row : Operation} {tables : List String}
    (recorded : Recorded store) (listed : row ∈ store.listOpen tables) :
    (row.payload = none ↔ row.kind = .delete) ∧
      ∀ forced, ∃ request, row.request forced = .ok request ∧ row.Makes forced request ∧
        (row.kind ≠ .delete → ∃ body, request.body? = some body ∧ body.IsEntity row.itemId) ∧
        ∀ (σ : Type) (remote : Remote σ) (run : Run σ),
          run.sendOperation remote row forced =
            (.ok (run.send remote request).1, (run.send remote request).2) := by
  have sendable := recorded.allSendable row (mem_of_listOpen listed).1
  refine ⟨sendable.payload, fun forced => ?_⟩
  obtain ⟨request, asks⟩ := sendable.exists_request forced
  have makes := Operation.makes_of_request asks
  refine ⟨request, asks, makes, fun keeps => ?_, fun σ remote run => ?_⟩
  · obtain ⟨body, sends, entity⟩ := sendable.exists_body keeps
    refine ⟨body, ?_, entity⟩
    rw [makes.body, if_neg keeps, sends]
  · unfold Run.sendOperation
    rw [asks]

namespace Store.Drift

open Session.Drifting (edit_ownsItem)

/-- The creation has succeeded after a further edit was merged into it, and is a
replacement since. -/
theorem recorded_pushed : Recorded pushed := by
  have first : Recorded (created operation) :=
    .step .empty (.edited (edit_ownsItem .add) recorded_creation)
  have second := first.step (.edited (edit_ownsItem .replace) recorded_edit)
  exact second.step (.pushed completed_creation)

theorem listed_renewal : (operation.merge .add (edit .replace)).rebase .add (some "v1") ∈
    pushed.listOpen ["todo"] :=
  List.mem_filter.mpr ⟨List.mem_cons_self .., by decide⟩

end Store.Drift

open Store.Drift in
/-- An operation that was queued as a creation and is sent as a replacement sends the entity. -/
theorem recorded_operation_sends_renewal :
    Store.Recorded pushed ∧
      (operation.merge .add (edit .replace)).rebase .add (some "v1") ∈ pushed.listOpen ["todo"] ∧
      ∃ request, ((operation.merge .add (edit .replace)).rebase .add (some "v1")).request true =
          .ok request ∧
        request.method = .put ∧ ∃ body, request.body? = some body ∧ body.IsEntity "1" := by
  refine ⟨recorded_pushed, listed_renewal, ?_⟩
  obtain ⟨-, sends⟩ := recorded_operation_sends recorded_pushed listed_renewal
  obtain ⟨request, asks, makes, carries, -⟩ := sends true
  exact ⟨request, asks, makes.method, carries (by decide)⟩

end OfflineSync
