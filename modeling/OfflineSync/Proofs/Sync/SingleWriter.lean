import OfflineSync.Proofs.Sync.Agreement

/-!
# A device and a remote that agree on one entity

One entity is edited on a device and pushed to a remote that nobody else writes. A push
lists what is queued, the remote handles the request, and the device settles the answer;
edits may come between any two of these `World.Step`s, and any request may fail without
effect. Whenever no request is in flight and nothing is queued for the entity, the local
copy is what the remote holds, as it is reprinted: the two sides agree as far as the reader
gives back what was pushed.
-/

namespace OfflineSync

/-- Whether an edit is of an entity, which its document names as the edit does. -/
structure Mutation.Edits (mutation : Mutation) (key : EntityKey) : Prop where
  table : mutation.table = key.table
  itemId : mutation.itemId = key.id
  own : mutation.OwnsItem

/-- Whether a remote keeps one entity, which nobody but the device edits: it handles each
request about the entity, or refuses it without effect, and what the user edits in the
flight of a request is that entity. -/
structure Remote.Keeps (remote : Remote (Option Held)) (key : EntityKey) : Prop where
  edits : ∀ request held, ∀ edit ∈ (remote request held).1.edits, ∀ mutation,
    Mutation.ofEdit edit = .ok mutation → mutation.Edits key
  answers : ∀ request held,
    (∃ version entityTag,
      (remote request held).1.answer = .ok (Held.serve version entityTag held request).1 ∧
        (remote request held).2 = (Held.serve version entityTag held request).2) ∨
      ((∀ response, (remote request held).1.answer = .ok response → response.isSuccess = false) ∧
        (remote request held).2 = held)

/-- How far the push of the entity has come. -/
inductive Phase where
  /-- Nothing is being pushed. -/
  | idle
  /-- An operation was listed, and the remote has yet to handle its request. -/
  | listed (sent : Operation)
  /-- The exchange is over, and its conclusion has yet to be settled. -/
  | answered (sent : Operation) (conclusion : Conclusion)

/-- The device, what the remote holds of the entity, and the push between them. -/
structure World where
  store : Store
  held : Option Held
  phase : Phase

namespace World

/-- The steps of the device and the remote. There is no conflict policy. -/
inductive Step (key : EntityKey) (world : World) : World → Prop where
  /-- The entity is edited. -/
  | edited {mutation : Mutation} {now : Instant} {outcome : EnqueueOutcome} {next : Store}
      (edits : mutation.Edits key)
      (recorded : world.store.recordLocalMutation mutation now = .ok (outcome, next)) :
      Step key world { world with store := next }
  /-- A push lists the operation that is open for the entity. -/
  | listed {sent : Operation} {tables : List String} (idle : world.phase = .idle)
      (isListed : sent ∈ world.store.listOpen tables) (belongs : sent.isFor key.table key.id) :
      Step key world { world with phase := .listed sent }
  /-- The push ends before the request is sent. -/
  | dropped {sent : Operation} (waits : world.phase = .listed sent) :
      Step key world { world with phase := .idle }
  /-- The operation has no request. -/
  | unsendable {sent : Operation} {fault : RequestFault} (waits : world.phase = .listed sent)
      (requests : sent.request false = .error fault) :
      Step key world
        { world with phase := .answered sent (.failed (.unanswered fault.message)) }
  /-- The remote handles the request. -/
  | served {sent : Operation} {request : Request} {conclusion : Conclusion} {version : String}
      {entityTag : Option String} (waits : world.phase = .listed sent)
      (requests : sent.request false = .ok request)
      (concludes : firstVerdict none sent (.ok (Held.serve version entityTag world.held request).1) =
        .conclude conclusion) :
      Step key world
        { world with
          held := (Held.serve version entityTag world.held request).2
          phase := .answered sent conclusion }
  /-- The request gets an error status, or no answer, and has no effect. -/
  | refused {sent : Operation} {request : Request} {answer : Except SyncError Response}
      {conclusion : Conclusion} (waits : world.phase = .listed sent)
      (requests : sent.request false = .ok request)
      (error : ∀ response, answer = .ok response → response.isSuccess = false)
      (concludes : firstVerdict none sent answer = .conclude conclusion) :
      Step key world { world with phase := .answered sent conclusion }
  /-- The device settles the answer. -/
  | settled {sent : Operation} {conclusion : Conclusion} {now : Instant}
      (waits : world.phase = .answered sent conclusion) :
      Step key world
        { world with store := (world.store.conclude sent conclusion now).2, phase := .idle }

/-- The worlds that steps (`Step`) lead to. -/
inductive Reaches (key : EntityKey) (start : World) : World → Prop where
  | refl : Reaches key start start
  | step {world next : World} (earlier : Reaches key start world) (call : Step key world next) :
      Reaches key start next

/-- The entity on both sides. -/
def sides (world : World) (key : EntityKey) : Sides :=
  world.store.sides key world.held

variable {key : EntityKey} {start world after : World} {first : Sides}

/-! ### What a push does -/

section Push

variable {remote : Remote (Option Held)} {sent : Operation}

/-- Edits of the entity, by `editAll`, are steps. A refused edit is none. -/
theorem Reaches.editAll {store : Store} {held : Option Held} {phase : Phase} {edits : List Edit}
    (now : Instant)
    (own : ∀ edit ∈ edits, ∀ mutation, Mutation.ofEdit edit = .ok mutation → mutation.Edits key)
    (reaches : Reaches key start ⟨store, held, phase⟩) :
    Reaches key start ⟨(store.editAll now edits).2, held, phase⟩ := by
  refine Store.editAll_induction
    (motive := fun store => Reaches key start ⟨store, held, phase⟩) reaches ?_
  intro edit among mutation described before outcome after earlier recorded
  exact earlier.step (.edited (own edit among mutation described) recorded)

/-- The exchange about a listed operation, `converse`, is a run of steps. -/
theorem Reaches.converse (keeps : remote.Keeps key) (run : Run (Option Held))
    (reaches : Reaches key start ⟨run.store, run.remote, .listed sent⟩) :
    Reaches key start
      ⟨(run.converse remote none sent).2.store, (run.converse remote none sent).2.remote,
        .answered sent (run.converse remote none sent).1⟩ := by
  unfold Run.converse Run.sendOperation
  cases requests : sent.request false with
  | error fault => exact reaches.step (.unsendable rfl requests)
  | ok request =>
    have answered : Reaches key start ⟨run.store, (remote request run.remote).2,
        .answered sent (.ofAnswer (remote request run.remote).1.answer)⟩ := by
      rcases keeps.answers request run.remote with ⟨version, entityTag, answer, same⟩ | ⟨error, same⟩
      · rw [answer, same]
        exact reaches.step (.served rfl requests (firstVerdict_none _))
      · rw [same]
        exact reaches.step (.refused rfl requests error (firstVerdict_none _))
    unfold Run.send
    dsimp only
    rw [firstVerdict_none]
    exact answered.editAll run.now (keeps.edits request run.remote)

/-- A push of the entity is a run of steps. -/
theorem Reaches.push (keeps : remote.Keeps key) {run : Run (Option Held)} {workers : Nat}
    {tables : List String} (lists : run.store.listOpen tables = [sent])
    (belongs : sent.isFor key.table key.id)
    (reaches : Reaches key start ⟨run.store, run.remote, .idle⟩) :
    Reaches key start
      ⟨(run.push remote (fun _ => none) workers tables).2.store,
        (run.push remote (fun _ => none) workers tables).2.remote, .idle⟩ := by
  have isListed : sent ∈ run.store.listOpen tables := by
    rw [lists]
    exact List.mem_singleton_self sent
  have listed := reaches.step (.listed rfl isListed belongs)
  have room : (Pushing.ofRun run).makeRoom remote (fun _ => none) workers = .ofRun run := by
    unfold Pushing.makeRoom
    split <;> rfl
  unfold Run.push
  rw [lists, Pushing.pushEach, room]
  dsimp only
  split
  · exact reaches
  · have answered := listed.converse keeps run
    exact answered.step (.settled rfl)

end Push

/-! ### What holds after every step -/

/-- What holds in every world that steps lead to. -/
inductive Sound (first : Sides) (key : EntityKey) (world : World) : Prop where
  | idle (queue : world.store.QueueSound) (phase : world.phase = .idle)
      (settled : world.store.Settled first key world.held) : Sound first key world
  | listed {sent : Operation} {newest : Option Mutation} (phase : world.phase = .listed sent)
      (inFlight : world.store.InFlight sent newest) (sends : sent.Sends key)
      (settled : world.store.Settled first key world.held) : Sound first key world
  | failed {sent : Operation} {newest : Option Mutation} {failure : PushFailure}
      (phase : world.phase = .answered sent (.failed failure))
      (inFlight : world.store.InFlight sent newest) (sends : sent.Sends key)
      (settled : world.store.Settled first key world.held) : Sound first key world
  | accepted {sent : Operation} {newest : Option Mutation} {status : Nat} {body : Option Document}
      {header : Option String} (phase : world.phase = .answered sent (.accepted status body header))
      (inFlight : world.store.InFlight sent newest) (sends : sent.Sends key)
      (applied : sent.Applied key body world.held) (outstanding : world.store.Outstanding key) :
      Sound first key world

/-- An edit keeps a world `Sound`, whatever is in flight. -/
theorem Sound.edited {mutation : Mutation} {now : Instant} {outcome : EnqueueOutcome} {next : Store}
    (sound : Sound first key world) (edits : mutation.Edits key)
    (recorded : world.store.recordLocalMutation mutation now = .ok (outcome, next)) :
    Sound first key { world with store := next } := by
  have concerns {sent : Operation} (sends : sent.Sends key) : mutation.Concerns sent := by
    obtain ⟨sentTable, sentItemId⟩ := Operation.isFor_iff.mp sends.belongs
    exact ⟨edits.table.trans sentTable.symm, edits.itemId.trans sentItemId.symm⟩
  have edited (queue : world.store.QueueSound) : world.store.Edited key next := by
    have edited := Store.edited_of_recordLocalMutation queue edits.own recorded
    rwa [edits.table, edits.itemId] at edited
  cases sound with
  | idle queue phase settled =>
    exact .idle ((Store.Step.edited recorded).queueSound queue) phase (settled.edited (edited queue))
  | listed phase inFlight sends settled =>
    exact .listed phase (inFlight.edited (concerns sends) recorded) sends
      (settled.edited (edited inFlight.sound))
  | failed phase inFlight sends settled =>
    exact .failed phase (inFlight.edited (concerns sends) recorded) sends
      (settled.edited (edited inFlight.sound))
  | accepted phase inFlight sends applied outstanding =>
    exact .accepted phase (inFlight.edited (concerns sends) recorded) sends applied
      (edited inFlight.sound).outstanding

/-- A settled answer leaves a world sound. -/
theorem Sound.settled {sent : Operation} {conclusion : Conclusion} {now : Instant}
    (sound : Sound first key world) (waits : world.phase = .answered sent conclusion) :
    Sound first key
      { world with store := (world.store.conclude sent conclusion now).2, phase := .idle } := by
  cases sound with
  | idle queue phase settled => cases phase.symm.trans waits
  | listed phase inFlight sends settled => cases phase.symm.trans waits
  | @failed _ newest failure phase inFlight sends settled =>
    cases phase.symm.trans waits
    exact .idle (inFlight.sound.noteFailure sent failure now) rfl
      (settled.noteFailure inFlight sends.belongs failure now)
  | @accepted _ newest status body header phase inFlight sends applied outstanding =>
    cases phase.symm.trans waits
    obtain ⟨settlement, next, completed, settled⟩ :=
      outstanding.completes inFlight sends.belongs applied header now
    have concluded : world.store.conclude sent (.accepted status body header) now = (none, next) := by
      unfold Store.conclude
      dsimp only
      rw [completed]
    rw [concluded]
    exact .idle ((Store.completesPush_of_completePush completed).queueSound inFlight.sound) rfl settled

/-- In a `Sound` world, the operation that a push has listed is in flight. -/
theorem Sound.listed_of_phase {sent : Operation} (sound : Sound first key world)
    (waits : world.phase = .listed sent) :
    ∃ newest, world.store.InFlight sent newest ∧ sent.Sends key ∧
      world.store.Settled first key world.held := by
  cases sound with
  | idle queue phase settled => cases phase.symm.trans waits
  | failed phase inFlight sends settled => cases phase.symm.trans waits
  | accepted phase inFlight sends applied outstanding => cases phase.symm.trans waits
  | listed phase inFlight sends settled =>
    cases phase.symm.trans waits
    exact ⟨_, inFlight, sends, settled⟩

/-- Every step keeps a world sound. -/
theorem Step.sound (call : Step key world after) (sound : Sound first key world) :
    Sound first key after := by
  cases call with
  | @edited mutation now outcome next edits recorded => exact sound.edited edits recorded
  | @listed sent tables idle isListed belongs =>
    cases sound with
    | idle queue phase settled =>
      obtain ⟨member, isOpen⟩ := Store.mem_of_listOpen isListed
      have opens := queue.openOperation?_eq_some.mpr ⟨member, belongs, isOpen⟩
      exact .listed rfl (queue.inFlight isListed) ((settled.mirrors sent opens).sends belongs) settled
    | listed phase => cases phase.symm.trans idle
    | failed phase => cases phase.symm.trans idle
    | accepted phase => cases phase.symm.trans idle
  | @settled sent conclusion now waits => exact sound.settled waits
  | @dropped sent waits =>
    obtain ⟨newest, inFlight, sends, settled⟩ := sound.listed_of_phase waits
    exact .idle inFlight.sound rfl settled
  | @unsendable sent fault waits requests =>
    obtain ⟨newest, inFlight, sends, settled⟩ := sound.listed_of_phase waits
    obtain ⟨request, asks⟩ := sends.exists_request
    cases asks.symm.trans requests
  | @served sent request conclusion version entityTag waits requests concludes =>
    obtain ⟨newest, inFlight, sends, settled⟩ := sound.listed_of_phase waits
    cases (firstVerdict_none _).symm.trans concludes
    rcases sends.served requests world.held version entityTag with
        ⟨fails, kept⟩ | ⟨succeeds, applied, creates⟩
    · exact .failed (congrArg (Phase.answered sent) (Conclusion.ofAnswer_refusal fails)) inFlight sends
        (kept.symm ▸ settled)
    · refine .accepted (congrArg (Phase.answered sent) (Conclusion.ofAnswer_success succeeds)) inFlight
        sends ?_ (settled.outstanding inFlight sends.belongs creates)
      rw [applied.filter_body]
      exact applied
  | @refused sent request answer conclusion waits requests error concludes =>
    obtain ⟨newest, inFlight, sends, settled⟩ := sound.listed_of_phase waits
    cases (firstVerdict_none _).symm.trans concludes
    cases answer with
    | error fault => exact .failed rfl inFlight sends settled
    | ok response =>
      exact .failed (congrArg (Phase.answered sent) (Conclusion.ofAnswer_refusal (error response rfl)))
        inFlight sends settled

/-- Whatever steps are taken, and in whatever order, a sound world stays sound. -/
theorem Reaches.sound {start : World} (reaches : Reaches key start world)
    (sound : Sound first key start) : Sound first key world := by
  induction reaches with
  | refl => exact sound
  | step earlier call inductionHypothesis => exact call.sound inductionHypothesis

/-- A world without a request in flight is `Settled`. -/
theorem Sound.settled_of_quiet (sound : Sound first key world)
    (quiet : ∀ sent conclusion, world.phase ≠ .answered sent conclusion) :
    world.store.Settled first key world.held := by
  cases sound with
  | idle queue phase settled => exact settled
  | listed phase inFlight sends settled => exact settled
  | failed phase => exact absurd phase (quiet _ _)
  | accepted phase => exact absurd phase (quiet _ _)

/-- A device and a remote that agree on an entity with nothing queued (`Store.Agrees`): whenever
no request is in flight and nothing is queued, the `sides` are as they were at first, or the
local copy is what the remote holds, printed and read once (`Held.reread`). So the two sides
agree again exactly if the entity is as it was at first or the reader gives back what the remote
holds. While an operation is queued, the local copy shows what it sends, printed and read some
times (`PresentsReread`); it is a creation only if the remote holds no entity. -/
theorem sides_agree_iff {start : World} (reachable : start.store.Reachable)
    (free : start.store.openOperation? key.table key.id = none)
    (agrees : start.store.Agrees key start.held) (unsent : start.phase = .idle)
    (reaches : Reaches key start world)
    (quiet : ∀ sent conclusion, world.phase ≠ .answered sent conclusion) :
    (world.store.openOperation? key.table key.id = none →
      (world.sides key = start.sides key ∨
        world.store.Agrees key (world.held.map Held.reread)) ∧
      (world.store.Agrees key world.held ↔
        world.sides key = start.sides key ∨
          ∀ present, world.held = some present →
            present.document.reprinted = present.document)) ∧
      ∀ row, world.store.openOperation? key.table key.id = some row →
        (row.kind = .add → world.held = none) ∧
          ∃ times, 0 < times ∧ world.store.PresentsReread row times ∧
            (world.store.Presents row ↔ row.Carrying (Document.GivesBackAfter times)) := by
  have settled : start.store.Settled (start.sides key) key start.held :=
    .of_free free (.unchanged rfl agrees)
  have sound := reaches.sound (.idle reachable.queueSound unsent settled)
  have preserved := sound.settled_of_quiet quiet
  refine ⟨fun free => ?_, fun row found => ⟨preserved.creates row found, ?_⟩⟩
  · have stands := preserved.stands free
    refine ⟨?_, stands.agrees_iff agrees⟩
    cases stands with
    | unchanged same _ => exact .inl same
    | copied copies => exact .inr copies.agrees
  · have mirrors := preserved.mirrors row found
    have belongs := (Store.mem_of_openOperation? found).2.1
    rw [← Store.isFor_iff_keyOf.mp belongs] at mirrors
    obtain ⟨times, positive, presents⟩ := mirrors.exists_presentsReread
    exact ⟨times, positive, presents, presents.presents_iff⟩

namespace Errand

open Store Store.Drift

/-- The entity as the remote holds it: what was created, with its version. -/
def stored : Held :=
  ⟨(document true).setField EntityMetadata.versionField (.text "v1"), "v1"⟩

/-- How the exchange about the creation ends. -/
def conclusion : Conclusion := .accepted 201 (some stored.document) none

/-- The store after the creation was pushed. -/
def pushed : Store where
  entities := [(⟨"todo", "1"⟩, .ofDocument stored.document ⟨"1", none, some "v1", false⟩)]
  queue := []
  watermarks := []
  lastSequence := 1

theorem usable_stored :
    EntityMetadata.ofDocument stored.document = .ok ⟨"1", none, some "v1", false⟩ := by
  rfl

theorem request_operation : operation.request false = .ok (.create "todo" (document true)) := by
  have kind : operation.kind = .add := rfl
  have table : operation.table = "todo" := rfl
  have payload : operation.payload = some (document false).render := rfl
  have body : operation.bodyToSend = .ok (document true) := by
    simp [Operation.bodyToSend, Operation.payloadDocument, Operation.readPayload, payload,
      read_render_document]
  simp [Operation.request, kind, table, body, Except.map]

theorem conclude_conclusion :
    (created operation).conclude operation conclusion ⟨0, 0⟩ = (none, pushed) := by
  have read : (created operation).readEntity ⟨"todo", "1"⟩ =
      .ok (some ⟨"todo", "1", document false, none, none⟩) :=
    readEntity_eq_ok_some.mpr
      ⟨_, rfl, EntityRow.read_eq_ok.mpr ⟨_, read_render_document true, rfl⟩⟩
  have adopts : (created operation).adoptAnswer operation (some stored.document) (some "v1") =
      .ok { pushed with queue := [operation] } :=
    mergeEntity_eq_ok.mpr
      ⟨_, usable_stored, .inl ⟨_, read, putEntity_eq_ok.mpr ⟨_, usable_stored, rfl⟩⟩⟩
  have completed : (created operation).completePush operation (some stored.document) none ⟨0, 0⟩ =
      .ok (.settled, pushed) := completePush_eq_settled rfl rfl adopts
  unfold conclude conclusion
  dsimp only
  rw [completed]

/-- The creation is recorded, listed, served and settled. -/
theorem reaches_pushed :
    Reaches ⟨"todo", "1"⟩ ⟨.empty, none, .idle⟩ ⟨pushed, some stored, .idle⟩ := by
  have edited : Step ⟨"todo", "1"⟩ ⟨.empty, none, .idle⟩ ⟨created operation, none, .idle⟩ :=
    .edited ⟨rfl, rfl, Session.Drifting.edit_ownsItem .add⟩ recorded_creation
  have listed : Step ⟨"todo", "1"⟩ ⟨created operation, none, .idle⟩
      ⟨created operation, none, .listed operation⟩ := .listed rfl listed_operation rfl
  have served : Step ⟨"todo", "1"⟩ ⟨created operation, none, .listed operation⟩
      ⟨created operation, some stored, .answered operation conclusion⟩ :=
    @Step.served _ ⟨created operation, none, .listed operation⟩ operation
      (.create "todo" (document true)) conclusion "v1" none rfl request_operation
      (firstVerdict_none _)
  have settled := @Step.settled ⟨"todo", "1"⟩
    ⟨created operation, some stored, .answered operation conclusion⟩ operation conclusion ⟨0, 0⟩ rfl
  rw [conclude_conclusion] at settled
  exact (((Reaches.refl.step edited).step listed).step served).step settled

/-- The reader does not give back what the remote holds. -/
theorem reprinted_stored : stored.document.reprinted ≠ stored.document := by
  intro same
  refine not_givesBack true fun name value other found => ?_
  have held : stored.document.field? name = some value := by
    rw [stored, Document.field?_setField rfl, if_neg other.symm, found]
  have reread : stored.document.reprinted.field? name = some value.reprinted := by
    simp [held]
  rw [same, held] at reread
  exact (Option.some.inj reread).symm

end Errand

/-- Once the creation of an entity with a number was pushed, nothing is queued and the device
reads another number than the remote holds. -/
theorem sides_agree_iff_pushed :
    Reaches ⟨"todo", "1"⟩ ⟨.empty, none, .idle⟩ ⟨Errand.pushed, some Errand.stored, .idle⟩ ∧
      Errand.pushed.openOperation? "todo" "1" = none ∧
      ¬ Errand.pushed.Agrees ⟨"todo", "1"⟩ (some Errand.stored) := by
  refine ⟨Errand.reaches_pushed, rfl, fun agree => ?_⟩
  have quiet : ∀ sent conclusion, Phase.idle ≠ .answered sent conclusion := by simp
  have absent : Store.empty.Agrees ⟨"todo", "1"⟩ none := rfl
  have exactly := (sides_agree_iff .empty rfl absent rfl Errand.reaches_pushed quiet).1 rfl
  rcases exactly.2.mp agree with same | back
  · cases (Sides.mk.inj same).2
  · exact Errand.reprinted_stored (back Errand.stored rfl)

end World

end OfflineSync
