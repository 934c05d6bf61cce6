import OfflineSync.Proofs.Store.Showing
import OfflineSync.Proofs.Sync.Sessions

/-!
# The outbox agrees with the local copies

A device edits entities, each by its own identity, while pushes list what is open and bring one
result for each operation listed, a run that `Visits` stores. Between any two calls, the local copy
of an entity `Presents` what its open operation sends, apart from the version. The exception is what
the reader does not give back: it differs from the first copy on.
-/

namespace OfflineSync

namespace Store

/-- Whether the local copy of an entity is what an operation of it sends, apart from the
version. -/
inductive Presents (store : Store) (row : Operation) : Prop where
  | removed (deletes : row.kind = .delete) (absent : store.entity? (keyOf row) = none) :
      Presents store row
  | held {text : String} {document copy : Document} (keeps : row.kind ≠ .delete)
      (payload : row.payload = some text) (read : Document.read text = some document)
      (held : store.document? (keyOf row) = some copy)
      (objects : document.isObject ∧ copy.isObject)
      (same : ∀ name, name ≠ EntityMetadata.versionField →
        copy.field? name = document.field? name) :
      Presents store row

/-- Whether the local copies are what the open operations send, which each copy `Presents`. -/
def OutboxAgrees (store : Store) : Prop :=
  ∀ row ∈ store.queue, row.isOpen → store.Presents row

variable {store next before after : Store} {mutation : Mutation} {sent row : Operation}
  {key other : EntityKey} {now : Instant} {outcome : EnqueueOutcome}
  {property : Document → Prop}

/-- A mirrored operation (`Mirrors`) is presented, if what it sends is given back. -/
theorem Mirrors.presents (mirrors : store.Mirrors (keyOf row) row)
    (carrying : row.Carrying Document.GivesBack) : store.Presents row := by
  cases mirrors with
  | removed deletes absent => exact .removed deletes absent
  | @held stored text document copy keeps payload read entity becomes found isCopy =>
    have givesBack := carrying keeps text document payload read
    have object := entity.isObject
    have held : store.document? (keyOf row) = some copy.reprinted :=
      document?_of_read found isCopy.read_text
    refine .held keeps payload read held ⟨object, ?_⟩ fun name other => ?_
    · simp [becomes.isObject, object]
    · exact becomes.field?_reprinted object (givesBack.field other) other

/-- An edit after which the outbox agrees wrote what the reader gives back. -/
theorem writes_of_outboxAgrees (sound : store.QueueSound) (own : mutation.OwnsItem)
    (recorded : store.recordLocalMutation mutation now = .ok (outcome, after))
    (agrees : after.OutboxAgrees) : mutation.Writes Document.GivesBack := by
  intro keeps document read
  obtain ⟨queued, enqueues, writes⟩ := recordLocalMutation_eq_ok recorded
  have written := writes.document?_eq own keeps read
  cases edited_of_recordLocalMutation sound own recorded with
  | cancelled free absent found creates =>
    rw [document?_eq_none absent] at written
    cases written
  | @queued row found mirrors created =>
    obtain ⟨member, belongs, isOpen⟩ := mem_of_openOperation? found
    have key : keyOf row = ⟨mutation.table, mutation.itemId⟩ := isFor_iff_keyOf.mp belongs
    have carries := carries_of_recordLocalMutation sound recorded found
    cases agrees row member isOpen with
    | removed deletes absent => exact absurd (carries.deletes.mp deletes) keeps
    | @held text payload copy stays sends readPayload held objects same =>
      cases sends.symm.trans (carries.payload_eq_some keeps)
      cases readPayload.symm.trans read
      rw [key] at held
      cases written.symm.trans held
      intro name value other found
      have given := same name other
      rw [Document.field?_reprinted, found] at given
      exact Option.some.inj given

/-- An edit leaves no copy of an entity of which it leaves nothing open. -/
theorem Edited.absent (edited : store.Edited key next)
    (free : next.openOperation? key.table key.id = none) : next.entity? key = none := by
  cases edited with
  | queued found mirrors created => cases free.symm.trans found
  | cancelled _ absent found creates => exact absent

/-- What is awaited (`Awaits`) stays so until it is closed, if its copy goes with what is open. -/
theorem Awaits.descends {closes : String → Prop} (awaits : before.Awaits sent)
    (sound : before.QueueSound) (afterSound : after.QueueSound)
    (descends : Descends closes before after) (spared : ¬ closes sent.id)
    (absent : after.openOperation? sent.table sent.itemId = none →
      after.entity? (keyOf sent) = none) : after.Awaits sent where
  handedOut := descends.handedOut awaits.handedOut
  finds := by
    intro row queued named
    obtain ⟨present, found, same, stays⟩ := descends.operation? sound afterSound awaits.handedOut
      (afterSound.operation?_eq_some.mpr ⟨queued, named⟩)
    obtain ⟨presentQueued, presentNamed⟩ := mem_of_operation? found
    obtain ⟨belongs, isOpen⟩ := awaits.finds present presentQueued presentNamed
    refine ⟨?_, (stays isOpen).resolve_right spared⟩
    rw [Operation.isFor, same.table, same.itemId]
    exact belongs
  absent := absent

/-- An operation of another entity than a call reaches is awaited as before. -/
theorem Awaits.absent_beside (awaits : before.Awaits sent) (beside : SameBeside key before after)
    (writes : WritesOnly key before after) (differs : keyOf sent ≠ key)
    (free : after.openOperation? sent.table sent.itemId = none) :
    after.entity? (keyOf sent) = none := by
  have wasFree : before.openOperation? sent.table sent.itemId = none :=
    (beside.openOperation? differs).symm.trans free
  exact (writes _ differs).trans (awaits.absent wasFree)

/-- A result, by `receive`, closes nothing but the operation that it is about. -/
theorem descends_of_receive {result : Outcome} (sound : before.QueueSound)
    (received : before.receive sent result now = .ok after) :
    Descends (· = sent.id) before after := by
  cases receives_of_receive received with
  | accepted completes => exact completes.descends sound
  | conceded described settles => exact settles.descends sound
  | refused records => exact records.descends

end Store

namespace Session

variable {session : Session} {edits : List Mutation} {stores : List Store} {mutation : Mutation}
  {sent : Operation} {next : Store} {now : Instant} {property : Document → Prop}

/-- The sessions in which entities are edited by their own identities, while the results of
listed operations are awaited, with the edits that were accepted and the stores that were
passed. An operation is listed when no result about its entity is outstanding. It gets one
result at most, and an answer that comes with it is about its entity. -/
inductive Visits : List Mutation → List Store → Session → Prop where
  | empty : Visits [] [.empty] ⟨.empty, []⟩
  | edited {edits : List Mutation} {stores : List Store} {session : Session} {mutation : Mutation}
      {now : Instant} {outcome : EnqueueOutcome} {next : Store}
      (earlier : Visits edits stores session) (own : mutation.OwnsItem)
      (recorded : session.store.recordLocalMutation mutation now = .ok (outcome, next)) :
      Visits (edits ++ [mutation]) (stores ++ [next]) { session with store := next }
  | listed {edits : List Mutation} {stores : List Store} {session : Session} {sent : Operation}
      {tables : List String} (earlier : Visits edits stores session)
      (isListed : sent ∈ session.store.listOpen tables)
      (fresh : ∀ other ∈ session.awaited, ¬ other.SameEntity sent) :
      Visits edits stores { session with awaited := session.awaited ++ [sent] }
  | received {edits : List Mutation} {stores : List Store} {session : Session} {sent : Operation}
      {result : Store.Outcome} {now : Instant} {next : Store}
      (earlier : Visits edits stores session) (awaits : sent ∈ session.awaited)
      (answers : result.Answers sent)
      (received : session.store.receive sent result now = .ok next) :
      Visits edits (stores ++ [next]) (session.received sent next)
  /-- The results of some operations never come. -/
  | abandoned {edits : List Mutation} {stores : List Store} {session : Session}
      {remaining : List Operation} (earlier : Visits edits stores session)
      (fewer : remaining.Sublist session.awaited) :
      Visits edits stores { session with awaited := remaining }

/-- What holds between calls, if every document that was written has a property. -/
structure Shown (property : Document → Prop) (session : Session) : Prop where
  displays : ∀ key, session.store.Displays property key
  awaits : ∀ sent ∈ session.awaited, session.store.Awaits sent
  apart : session.awaited.Pairwise fun earlier later => ¬ earlier.SameEntity later

/-- A session that `Visits` stores is led to by calls on its store. -/
theorem Visits.reachable (visits : Visits edits stores session) : session.store.Reachable := by
  induction visits with
  | empty => exact .empty
  | edited earlier own recorded inductionHypothesis =>
    exact inductionHypothesis.step (.edited recorded)
  | listed earlier isListed fresh inductionHypothesis => exact inductionHypothesis
  | received earlier awaits answers received inductionHypothesis =>
    exact inductionHypothesis.step (Store.step_of_receive received)
  | abandoned earlier fewer inductionHypothesis => exact inductionHypothesis

/-- An edit keeps a session `Shown`. -/
theorem Shown.edited {outcome : EnqueueOutcome} (shown : session.Shown property)
    (sound : session.store.QueueSound) (own : mutation.OwnsItem) (writes : mutation.Writes property)
    (recorded : session.store.recordLocalMutation mutation now = .ok (outcome, next)) :
    Shown property { session with store := next } := by
  have afterSound := (Store.Step.edited recorded).queueSound sound
  have descends : Store.Descends (fun _ => False) session.store next :=
    Store.descends_recordLocalMutation recorded sound
  obtain ⟨beside, writesOnly⟩ := Store.confined_of_recordLocalMutation sound own recorded
  refine ⟨fun key => ?_, fun sent awaited => ?_, shown.apart⟩
  · by_cases itself : key = ⟨mutation.table, mutation.itemId⟩
    · rw [itself]
      exact Store.displays_of_recordLocalMutation sound own writes recorded
    · exact (shown.displays key).beside beside writesOnly itself
  · have awaits := shown.awaits sent awaited
    refine awaits.descends sound afterSound descends id fun free => ?_
    by_cases itself : Store.keyOf sent = ⟨mutation.table, mutation.itemId⟩
    · have edited := Store.edited_of_recordLocalMutation sound own recorded
      rw [← itself] at edited
      exact edited.absent free
    · exact awaits.absent_beside beside writesOnly itself free

/-- Listing an operation keeps a session shown. -/
theorem Shown.listed {tables : List String} (shown : session.Shown property)
    (sound : session.store.QueueSound) (isListed : sent ∈ session.store.listOpen tables)
    (fresh : ∀ other ∈ session.awaited, ¬ other.SameEntity sent) :
    Shown property { session with awaited := session.awaited ++ [sent] } := by
  obtain ⟨queued, isOpen⟩ := Store.mem_of_listOpen isListed
  have belongs : sent.isFor sent.table sent.itemId := Operation.isFor_iff.mpr ⟨rfl, rfl⟩
  have awaits : session.store.Awaits sent := by
    refine ⟨sound.handedOut queued, fun row rowQueued named => ?_, fun free => ?_⟩
    · cases sound.eq_of_id rowQueued queued named
      exact ⟨belongs, isOpen⟩
    · cases free.symm.trans (sound.openOperation?_eq_some.mpr ⟨queued, belongs, isOpen⟩)
  refine ⟨shown.displays, fun other among => ?_, ?_⟩
  · rcases List.mem_append.mp among with awaited | new
    · exact shown.awaits other awaited
    · cases List.mem_singleton.mp new
      exact awaits
  · refine List.pairwise_append.mpr ⟨shown.apart, List.pairwise_singleton .., ?_⟩
    intro other awaited new among
    cases List.mem_singleton.mp among
    exact fresh other awaited

/-- Awaited operations of two identities are of two entities. -/
theorem Shown.not_sameEntity {left right : Operation} (shown : session.Shown property)
    (leftAwaited : left ∈ session.awaited) (rightAwaited : right ∈ session.awaited)
    (differ : left.id ≠ right.id) : ¬ left.SameEntity right := by
  have apart : ∀ l ∈ session.awaited, ∀ r ∈ session.awaited, l.id ≠ r.id → ¬ l.SameEntity r :=
    List.Pairwise.forall_of_forall_of_flip (fun _ _ differ => absurd rfl differ)
      (shown.apart.imp fun apart _ same => apart same)
      (shown.apart.imp fun apart _ same => apart ⟨same.1.symm, same.2.symm⟩)
  exact apart left leftAwaited right rightAwaited differ

/-- A result keeps a session shown. -/
theorem Shown.received {result : Store.Outcome} (shown : session.Shown property)
    (sound : session.store.QueueSound) (awaited : sent ∈ session.awaited)
    (named : ∀ document, property document → document.GivesBackField EntityMetadata.idField)
    (answers : result.Answers sent)
    (received : session.store.receive sent result now = .ok next) :
    Shown property (session.received sent next) := by
  have afterSound := (Store.step_of_receive received).queueSound sound
  have descends := Store.descends_of_receive sound received
  obtain ⟨displaysOwn, beside, writesOnly⟩ := (shown.displays (Store.keyOf sent)).receive sound
    (shown.awaits sent awaited) named answers received
  refine ⟨fun key => ?_, fun other among => ?_, shown.apart.filter _⟩
  · by_cases itself : key = Store.keyOf sent
    · rw [itself]
      exact displaysOwn
    · exact (shown.displays key).beside beside writesOnly itself
  · obtain ⟨stillAwaited, spared⟩ := List.mem_filter.mp among
    have spared : other.id ≠ sent.id := by simpa using spared
    have awaits := shown.awaits other stillAwaited
    have differs : Store.keyOf other ≠ Store.keyOf sent := fun same =>
      shown.not_sameEntity stillAwaited awaited spared
        ⟨congrArg EntityKey.table same, congrArg EntityKey.id same⟩
    exact awaits.descends sound afterSound descends spared
      (awaits.absent_beside beside writesOnly differs)

/-- What holds of the stores passed and of the next one holds of all of them. -/
theorem forall_passed {holds : Store → Prop} (passed : ∀ store ∈ stores, holds store)
    (last : holds next) : ∀ store ∈ stores ++ [next], holds store :=
  List.forall_mem_append.mpr ⟨passed, List.forall_mem_singleton.mpr last⟩

/-- A session is shown, and what was open in each store passed was shown in it. -/
theorem Visits.shown (visits : Visits edits stores session)
    (named : ∀ document, property document → document.GivesBackField EntityMetadata.idField)
    (writes : ∀ edit ∈ edits, edit.Writes property) :
    session.Shown property ∧ ∀ store ∈ stores, ∀ key, store.Displays property key := by
  induction visits with
  | empty =>
    have displays (key : EntityKey) : Store.empty.Displays property key :=
      Store.displays_of_unopened rfl
    exact ⟨⟨displays, by simp, List.Pairwise.nil⟩, List.forall_mem_singleton.mpr displays⟩
  | edited earlier own recorded inductionHypothesis =>
    obtain ⟨earlierWrites, written⟩ := List.forall_mem_append.mp writes
    obtain ⟨shown, passed⟩ := inductionHypothesis earlierWrites
    have after := shown.edited earlier.reachable.queueSound own
      (written _ (List.mem_singleton_self _)) recorded
    exact ⟨after, forall_passed passed after.displays⟩
  | listed earlier isListed fresh inductionHypothesis =>
    obtain ⟨shown, passed⟩ := inductionHypothesis writes
    exact ⟨shown.listed earlier.reachable.queueSound isListed fresh, passed⟩
  | received earlier awaits answers received inductionHypothesis =>
    obtain ⟨shown, passed⟩ := inductionHypothesis writes
    have after := shown.received earlier.reachable.queueSound awaits named answers received
    exact ⟨after, forall_passed passed after.displays⟩
  | abandoned earlier fewer inductionHypothesis =>
    obtain ⟨shown, passed⟩ := inductionHypothesis writes
    exact ⟨⟨shown.displays, fun sent among => shown.awaits sent (fewer.subset among),
      shown.apart.sublist fewer⟩, passed⟩

/-- The queue of every store that was passed is sound (`QueueSound`). -/
theorem Visits.queueSound (visits : Visits edits stores session) :
    ∀ store ∈ stores, store.QueueSound := by
  induction visits with
  | empty => exact List.forall_mem_singleton.mpr Store.queueSound_empty
  | edited earlier own recorded inductionHypothesis =>
    exact forall_passed inductionHypothesis (earlier.edited own recorded).reachable.queueSound
  | received earlier awaits answers received inductionHypothesis =>
    have after := (earlier.received awaits answers received).reachable
    exact forall_passed inductionHypothesis after.queueSound
  | listed earlier isListed fresh inductionHypothesis => exact inductionHypothesis
  | abandoned earlier fewer inductionHypothesis => exact inductionHypothesis

/-- Where the outbox agreed after every call (`OutboxAgrees`), the edits wrote what the reader gives
back. -/
theorem Visits.writes (visits : Visits edits stores session)
    (agrees : ∀ store ∈ stores, store.OutboxAgrees) :
    ∀ edit ∈ edits, edit.Writes Document.GivesBack := by
  induction visits with
  | empty => simp
  | edited earlier own recorded inductionHypothesis =>
    obtain ⟨passed, last⟩ := List.forall_mem_append.mp agrees
    have written := Store.writes_of_outboxAgrees earlier.reachable.queueSound own recorded
      (List.forall_mem_singleton.mp last)
    exact List.forall_mem_append.mpr
      ⟨inductionHypothesis passed, List.forall_mem_singleton.mpr written⟩
  | received earlier awaits answers received inductionHypothesis =>
    exact inductionHypothesis (List.forall_mem_append.mp agrees).1
  | listed earlier isListed fresh inductionHypothesis => exact inductionHypothesis agrees
  | abandoned earlier fewer inductionHypothesis => exact inductionHypothesis agrees

/-- Between any two calls `OutboxAgrees` with the local copies, exactly if the reader
gives back what the edits wrote (`GivesBack`). If it gives back no more than the identities, then
each local copy `Mirrors` its operation: it is what was written, read and printed anew with each
version that it was given. -/
theorem outbox_agrees_iff (visits : Visits edits stores session) :
    ((∀ store ∈ stores, store.OutboxAgrees) ↔ ∀ edit ∈ edits, edit.Writes Document.GivesBack) ∧
      ((∀ edit ∈ edits, edit.Writes (·.GivesBackField EntityMetadata.idField)) →
        ∀ store ∈ stores, ∀ row ∈ store.queue, row.isOpen →
          store.Mirrors (Store.keyOf row) row) := by
  have shown {property : Document → Prop}
      (named : ∀ document, property document → document.GivesBackField EntityMetadata.idField)
      (writes : ∀ edit ∈ edits, edit.Writes property) {store : Store} (passed : store ∈ stores)
      {row : Operation} (queued : row ∈ store.queue) (isOpen : row.isOpen) :
      store.Mirrors (Store.keyOf row) row ∧ row.Carrying property := by
    refine (visits.shown named writes).2 store passed (Store.keyOf row) row ?_
    exact (visits.queueSound store passed).openOperation?_eq_some.mpr
      ⟨queued, Operation.isFor_iff.mpr ⟨rfl, rfl⟩, isOpen⟩
  refine ⟨⟨visits.writes, fun writes store passed row queued isOpen => ?_⟩, ?_⟩
  · obtain ⟨mirrors, carrying⟩ :=
      shown (fun _ givesBack => givesBack.field (by decide)) writes passed queued isOpen
    exact mirrors.presents carrying
  · intro writes store passed row queued isOpen
    exact (shown (fun _ => id) writes passed queued isOpen).1

namespace Drifting

open Store.Drift

/-- The creation of an entity with a number, after the entity was edited in flight. -/
def merged : Operation := operation.merge .add (edit .replace)

theorem edit_ownsItem (kind : OperationKind) : (edit kind).OwnsItem := by
  intro keeps document read metadata usable
  cases read.symm.trans (read_render_document false)
  cases usable.symm.trans (usable_document true)
  rfl

theorem edit_writes_id (kind : OperationKind) :
    (edit kind).Writes (·.GivesBackField EntityMetadata.idField) := by
  intro keeps document read value found
  cases read.symm.trans (read_render_document false)
  cases found
  rfl

theorem visits_created : Visits [edit .add] [.empty, created operation] ⟨created operation, []⟩ :=
  Visits.empty.edited (edit_ownsItem .add) recorded_creation

/-- The entity is edited while its creation is on its way, and the creation succeeds. -/
theorem visits_pushed : Visits [edit .add, edit .replace]
    [.empty, created operation, created merged, pushed] ⟨pushed, []⟩ := by
  have sent : Visits [edit .add] [.empty, created operation] ⟨created operation, [operation]⟩ :=
    visits_created.listed listed_operation (by simp)
  have edited : Visits [edit .add, edit .replace] [.empty, created operation, created merged]
      ⟨created merged, [operation]⟩ := sent.edited (edit_ownsItem .replace) recorded_edit
  have answers : (Store.Outcome.accepted none (some "v1")).Answers operation := by
    intro document given
    cases given
  exact edited.received (List.mem_singleton_self _) answers received_accepted

/-- From its creation on, the copy of the entity differs from what is to be sent. After the
success, it is still what was written, with the version. -/
theorem outbox_agrees_iff_drifting :
    Visits [edit .add, edit .replace] [.empty, created operation, created merged, pushed]
        ⟨pushed, []⟩ ∧
      ¬ (created operation).OutboxAgrees ∧
      ∀ row ∈ pushed.queue, row.isOpen → pushed.Mirrors (Store.keyOf row) row := by
  refine ⟨visits_pushed, fun agrees => ?_, ?_⟩
  · have empty : Store.empty.OutboxAgrees := by simp [Store.OutboxAgrees, Store.empty]
    have passed : ∀ store ∈ [Store.empty, created operation], store.OutboxAgrees :=
      forall_passed (List.forall_mem_singleton.mpr empty) agrees
    have writes := (outbox_agrees_iff visits_created).1.mp passed _ (List.mem_singleton_self _)
    exact not_givesBack true (writes (by decide) _ (read_render_document false))
  · have ids : ∀ mutation ∈ [edit .add, edit .replace],
        mutation.Writes (·.GivesBackField EntityMetadata.idField) := by
      simp [edit_writes_id]
    exact (outbox_agrees_iff visits_pushed).2 ids pushed (by simp)

end Drifting

end Session

end OfflineSync
