import OfflineSync.Proofs.Store.Legibility
import OfflineSync.Proofs.Sync.Lifecycle
import OfflineSync.Store.Database

/-!
# Conflicts that are conceded

A conflict that is resolved in favour of the remote is settled with the entity that the answer
describes, or not at all: the store `Rejects` the answer, or something `Bars` its entity. Where the
operation is still as it was sent, the remote's entity is laid over what was read of the local copy,
and the operation is completed, which ends its life (`Store.Concedes`). What is read of the copy
afterwards is what was laid over it, as far as the reader gives that back.
-/

namespace OfflineSync

namespace Store

/-- The answers that a conflict about an operation cannot be settled with. -/
inductive Rejects (sent : Operation) : Option Document → Prop where
  | silent : Rejects sent none
  | unusable {document : Document} {fault : ValidationError}
      (refused : EntityMetadata.ofDocument document = .error fault) : Rejects sent (some document)
  | stranger {document : Document} {metadata : EntityMetadata}
      (usable : EntityMetadata.ofDocument document = .ok metadata)
      (differs : metadata.id ≠ sent.itemId) : Rejects sent (some document)

/-- Whether the local copy stands in the way of the remote's entity: it cannot be read, or
does not become an entity under it. -/
def Bars (store : Store) (sent : Operation) (body : Option Document) : Prop :=
  ∃ document, body = some document ∧ document.IsEntity sent.itemId ∧
    ¬ EntityMetadata.isTombstone document ∧
    ¬ store.CanChange (keyOf sent) fun older => older.overlay document

/-- What the remote's entity makes of a local copy: it is laid over what is read of it, or
stands alone where there is none. -/
def taking (store : Store) (key : EntityKey) (document : Document) : Document :=
  match store.document? key with
  | some older => older.overlay document
  | none => document

/-- A store after a conflict about an operation, found as it was sent, was settled with the
remote's entity. -/
structure Concedes (before : Store) (sent current : Operation) (document : Document)
    (now : Instant) (after : Store) : Prop where
  row : after.operation? sent.id =
    some { current with state := .completed, lastAttempt := some now }
  queue : after.queue = (before.markCompleted sent.id now).queue
  watermarks : after.watermarks = before.watermarks
  lastSequence : after.lastSequence = before.lastSequence
  others : ∀ key, key ≠ keyOf sent → after.entity? key = before.entity? key
  removed : EntityMetadata.isTombstone document → after.entity? (keyOf sent) = none
  taken : ¬ EntityMetadata.isTombstone document → ∃ metadata,
    EntityMetadata.ofDocument (before.taking (keyOf sent) document) = .ok metadata ∧
      metadata.id = sent.itemId ∧
      after.entity? (keyOf sent) =
        some (.ofDocument (before.taking (keyOf sent) document) metadata)

variable {store next adopted : Store} {sent current : Operation} {body : Option Document}
  {document : Document} {metadata : EntityMetadata} {settlement : Settlement} {now : Instant}
  {fault : StoreError}

/-! ### Which answers are refused -/

/-- An answer is rejected (`Rejects`) exactly where it does not describe the entity sent. -/
theorem not_rejects_iff :
    ¬ Rejects sent body ↔ ∃ document, body = some document ∧ document.IsEntity sent.itemId := by
  constructor
  · intro accepted
    cases body with
    | none => exact absurd .silent accepted
    | some document =>
      cases usable : EntityMetadata.ofDocument document with
      | error fault => exact absurd (.unusable usable) accepted
      | ok metadata =>
        refine ⟨document, rfl, metadata, usable, ?_⟩
        by_contra differs
        exact accepted (.stranger usable differs)
  · rintro ⟨document, rfl, metadata, usable, named⟩ rejected
    cases rejected with
    | unusable refused => cases refused.symm.trans usable
    | stranger again differs =>
      cases again.symm.trans usable
      exact differs named

/-- The entity that an answer describes is found by `conflictingEntity` exactly where the answer is
not rejected. -/
theorem exists_conflictingEntity :
    (∃ entity, conflictingEntity sent body = .ok entity) ↔ ¬ Rejects sent body := by
  rw [not_rejects_iff]
  constructor
  · rintro ⟨⟨document, metadata⟩, described⟩
    obtain ⟨given, usable, named⟩ := conflictingEntity_eq_ok.mp described
    exact ⟨document, given, metadata, usable, named⟩
  · rintro ⟨document, given, metadata, usable, named⟩
    exact ⟨(document, metadata), conflictingEntity_eq_ok.mpr ⟨given, usable, named⟩⟩

/-- A conflict is settled in an open database exactly as in its store, by `settleWithServer`, and a
refusal leaves the database as it was. -/
theorem settleWithServer_opened (store : Store) (sent : Operation) (body : Option Document)
    (now : Instant) :
    (Database.opened store).settleWithServer sent body now =
      match store.settleWithServer sent body now with
      | .ok (settlement, next) => (.ok settlement, .opened next)
      | .error fault => (.error fault, .opened store) := by
  unfold Database.settleWithServer
  cases described : conflictingEntity sent body with
  | ok entity =>
    simp only [Database.transact]
    cases store.settleWithServer sent body now with
    | error fault => simp only
    | ok result => simp only
  | error fault =>
    have refused : store.settleWithServer sent body now = .error fault := by
      rw [settleWithServer, described]
      rfl
    rw [refused]

/-! ### What a settled conflict leaves -/

/-- The remote's entity is adopted by an operation that is as it was sent, which is then
completed. -/
theorem settleWithServer_of_same
    (described : conflictingEntity sent body = .ok (document, metadata))
    (found : store.operation? sent.id = some current) (same : current.revision = sent.revision) :
    store.settleWithServer sent body now =
      (if metadata.deleted then .ok (store.removeEntity (keyOf sent))
        else store.mergeEntity sent.table document).map fun adopted =>
          (.settled, adopted.markCompleted sent.id now) := by
  unfold settleWithServer
  simp only [described, found, same, bind, Except.bind, ne_eq, not_true_eq_false, if_false]
  by_cases deleted : metadata.deleted
  · simp [deleted, Except.map, pure, Except.pure, keyOf]
  · simp only [deleted, Bool.false_eq_true, if_false]
    cases store.mergeEntity sent.table document <;> rfl

/-- An operation that is marked is found as it was, but for its state and the moment of the
attempt. -/
theorem operation?_markCompleted (found : store.operation? sent.id = some current) :
    (store.markCompleted sent.id now).operation? sent.id =
      some { current with state := .completed, lastAttempt := some now } := by
  have named : current.id = sent.id := (mem_of_operation? found).2
  -- The mark keeps the identity of each row, so it finds the row that was found.
  have finds : ((fun row : Operation => row.id == sent.id) ∘ fun row : Operation =>
      if row.id == sent.id then { row with state := .completed, lastAttempt := some now }
      else row) = fun row => row.id == sent.id := by
    funext row
    dsimp only [Function.comp]
    split <;> rfl
  unfold operation? at found ⊢
  rw [markCompleted, updateOperation, List.find?_map, finds, found]
  simp [named]

/-- The copy that a conflict is about is read as the document that the remote's entity is
laid over. -/
theorem taking_of_readEntity {key : EntityKey} {present : StoredEntity}
    (read : store.readEntity key = .ok (some present)) :
    store.taking key document = present.document.overlay document := by
  rw [taking, document?_eq_some.mpr ⟨present, read, rfl⟩]

/-- Where there is no copy, the remote's entity stands alone: `taking` is that entity. -/
theorem taking_of_absent {key : EntityKey} (absent : store.entity? key = none) :
    store.taking key document = document := by
  rw [taking, document?, absent]
  rfl

/-- An entity that `mergeEntity` merges is placed under its own key, as what it makes of the copy
there. -/
theorem entity?_mergeEntity {table id : String} (names : EntityMetadata.idOf document = .ok id)
    (ascends : document.Ascends) (merged : store.mergeEntity table document = .ok next) :
    ∃ metadata, EntityMetadata.ofDocument (store.taking ⟨table, id⟩ document) = .ok metadata ∧
      metadata.id = id ∧
      next.entity? ⟨table, id⟩ = some (.ofDocument (store.taking ⟨table, id⟩ document) metadata) := by
  obtain ⟨metadata, usable, found⟩ := mergeEntity_eq_ok.mp merged
  obtain ⟨-, identity, -⟩ := EntityMetadata.ofDocument_eq_ok.mp usable
  cases names.symm.trans identity
  rcases found with ⟨present, read, written⟩ | ⟨absent, written⟩
  · rw [taking_of_readEntity read]
    exact entity?_of_putEntity (EntityMetadata.idOf_overlay names ascends) written
  · rw [taking_of_absent absent]
    exact entity?_of_putEntity names written

/-- What is left of a store when the remote's entity was adopted and the operation marked. -/
theorem concedes_markCompleted (found : store.operation? sent.id = some current)
    (differs : DiffersInCopies store adopted) (writes : WritesOnly (keyOf sent) store adopted)
    (removed : EntityMetadata.isTombstone document → adopted.entity? (keyOf sent) = none)
    (taken : ¬ EntityMetadata.isTombstone document → ∃ metadata,
      EntityMetadata.ofDocument (store.taking (keyOf sent) document) = .ok metadata ∧
        metadata.id = sent.itemId ∧
        adopted.entity? (keyOf sent) =
          some (.ofDocument (store.taking (keyOf sent) document) metadata)) :
    store.Concedes sent current document now (adopted.markCompleted sent.id now) where
  row := by
    refine operation?_markCompleted ?_
    rwa [operation?, differs.queue]
  queue := by simp only [markCompleted, updateOperation, differs.queue]
  watermarks := differs.watermarks
  lastSequence := differs.lastSequence
  others := writes
  removed := removed
  taken := taken

/-- A conflict about an operation that is as it was sent is settled with the remote's entity if the
call succeeds: the store `Concedes`. -/
theorem concedes_of_settleWithServer (found : store.operation? sent.id = some current)
    (same : current.revision = sent.revision)
    (inOrder : ∀ document, body = some document → document.Ascends)
    (settled : store.settleWithServer sent body now = .ok (settlement, next)) :
    ∃ document, body = some document ∧ settlement = .settled ∧
      store.Concedes sent current document now next := by
  obtain ⟨document, metadata, described, settles⟩ := settlesWithServer_of_settleWithServer settled
  obtain ⟨given, usable, named⟩ := conflictingEntity_eq_ok.mp described
  obtain ⟨-, names, -, -, -, deletes⟩ := EntityMetadata.ofDocument_eq_ok.mp usable
  rw [named] at names
  cases settles with
  | rebased other newer rebased =>
    cases found.symm.trans other
    exact absurd same newer
  | vanished gone => cases found.symm.trans gone
  | removed _ _ deleted =>
    refine ⟨document, given, rfl, concedes_markCompleted found differs_removeEntity .removeEntity
      (fun _ => ?_) fun live => ?_⟩
    · simp [keyOf]
    · exact absurd (deletes.trans deleted) live
  | adopted _ _ live merges =>
    have ascends := inOrder document given
    refine ⟨document, given, rfl, concedes_markCompleted found (differs_mergeEntity merges)
      (.mergeEntity names ascends merges) (fun removed => ?_) fun _ => ?_⟩
    · exact absurd (deletes.symm.trans removed) live
    · exact entity?_mergeEntity names ascends merges

/-- The call succeeds exactly where the answer describes the entity sent (not `Rejects`), and
the local copy does not stand in the way (not `Bars`). -/
theorem exists_settleWithServer (found : store.operation? sent.id = some current)
    (same : current.revision = sent.revision) :
    (∃ result, store.settleWithServer sent body now = .ok result) ↔
      ¬ Rejects sent body ∧ ¬ store.Bars sent body := by
  constructor
  · rintro ⟨⟨settlement, next⟩, settled⟩
    obtain ⟨document, metadata, described, -⟩ := settlesWithServer_of_settleWithServer settled
    obtain ⟨given, usable, named⟩ := conflictingEntity_eq_ok.mp described
    refine ⟨not_rejects_iff.mpr ⟨document, given, metadata, usable, named⟩, ?_⟩
    rintro ⟨other, again, -, live, blocks⟩
    cases given.symm.trans again
    obtain ⟨-, -, -, -, -, deletes⟩ := EntityMetadata.ofDocument_eq_ok.mp usable
    rw [deletes] at live
    rw [settleWithServer_of_same described found same, if_neg live] at settled
    obtain ⟨merged, merges, -⟩ := map_eq_ok.mp settled
    obtain ⟨id, ⟨other, usableAgain, rfl⟩, changes⟩ := exists_mergeEntity.mp ⟨merged, merges⟩
    cases usable.symm.trans usableAgain
    rw [named] at changes
    exact blocks changes
  · rintro ⟨accepted, free⟩
    obtain ⟨document, rfl, metadata, usable, named⟩ := not_rejects_iff.mp accepted
    have described := conflictingEntity_eq_ok.mpr ⟨rfl, usable, named⟩
    obtain ⟨-, -, -, -, -, deletes⟩ := EntityMetadata.ofDocument_eq_ok.mp usable
    rw [settleWithServer_of_same described found same]
    by_cases deleted : metadata.deleted
    · rw [if_pos deleted]
      exact ⟨_, rfl⟩
    · rw [if_neg deleted]
      have entity : document.IsEntity sent.itemId := ⟨metadata, usable, named⟩
      have changes : store.CanChange (keyOf sent) fun older => older.overlay document := by
        by_contra blocks
        exact free ⟨document, rfl, entity, deletes ▸ deleted, blocks⟩
      obtain ⟨merged, merges⟩ := exists_mergeEntity.mpr ⟨sent.itemId, entity, changes⟩
      rw [merges]
      exact ⟨_, rfl⟩

/-! ### Legible copies -/

/-- A legible copy never stands in the way of an entity (`Bars`). -/
theorem Legible.not_bars (legible : store.Legible)
    (inOrder : ∀ document, body = some document → document.Ascends) : ¬ store.Bars sent body := by
  rintro ⟨document, given, entity, -, blocks⟩
  exact blocks (legible.canChange entity (inOrder document given) (keyOf sent))

/-- What has come as a text can be read again when it was laid over a legible copy. -/
theorem Legible.taking (legible : store.Legible) (denoted : document.Denoted) (key : EntityKey) :
    (store.taking key document).Denoted := by
  unfold Store.taking
  cases held : store.document? key with
  | none => exact denoted
  | some older =>
    obtain ⟨copy, found, -⟩ := Option.bind_eq_some_iff.mp held
    obtain ⟨_, same, olderDenoted, -⟩ := legible.document? found
    cases held.symm.trans same
    exact olderDenoted.overlay denoted

/-- What is read of the copy after a conflict is what the remote's entity made of it, as the
reader gives it back. -/
theorem Concedes.document? (concedes : store.Concedes sent current document now next)
    (legible : store.Legible) (denoted : document.Denoted)
    (live : ¬ EntityMetadata.isTombstone document) :
    next.document? (keyOf sent) = some (store.taking (keyOf sent) document).reprinted := by
  obtain ⟨metadata, -, -, found⟩ := concedes.taken live
  rw [Store.document?, found]
  exact (legible.taking denoted (keyOf sent)).read_render

end Store

namespace Session

open Store (Rejects keyOf)

variable {session : Session} {sent current : Operation} {body : Option Document}
  {document : Document} {next : Store} {now : Instant}

/-- An operation that a conflict has completed is never listed again by `listOpen`. -/
theorem not_listed_of_concedes (reachable : Reachable session) (awaits : sent ∈ session.awaited)
    (settled : session.store.settleWithServer sent body now = .ok (.settled, next))
    (concedes : session.store.Concedes sent current document now next) {events : List Event}
    {later : Session} (runs : Runs (session.received sent next) events later) :
    ∀ tables, ∀ row ∈ later.store.listOpen tables, row.id ≠ sent.id := by
  intro tables row listed named
  have start : Reachable (session.received sent next) := reachable.step (.conceded awaits settled)
  obtain ⟨closedQueued, closedNamed⟩ := Store.mem_of_operation? concedes.row
  obtain ⟨queued, isOpen⟩ := Store.mem_of_listOpen listed
  obtain ⟨-, -, stays⟩ := (runs.lives start).of_id start.sound.queue
    (start.runs runs).sound.queue closedQueued queued (named.trans closedNamed.symm)
  exact not_completed_of_isOpen isOpen (stays rfl ▸ rfl)

/-- A conflict about an operation that is as it was sent is conceded exactly if the answer is
not one that the operation `Rejects`, since it describes the entity sent, and nothing `Bars` the
local copy, which nothing does where all documents have come as texts; else nothing changes. Where
the conflict is conceded, the operation is completed as it is, and never listed again; its copy is
removed by a tombstone, and otherwise becomes what the remote's entity makes of it, and nothing
else changes. What is then read of the copy is that document exactly if the reader gives it
back. -/
theorem conflict_conceded_iff (reachable : Reachable session)
    (found : session.store.operation? sent.id = some current)
    (same : current.revision = sent.revision)
    (inOrder : ∀ document, body = some document → document.Ascends) (now : Instant) :
    let result := (Database.opened session.store).settleWithServer sent body now
    ((∃ fault, result.1 = .error fault) ↔ Rejects sent body ∨ session.store.Bars sent body) ∧
    (session.store.Textual → ¬ session.store.Bars sent body) ∧
    (∀ fault, result.1 = .error fault → result.2 = .opened session.store) ∧
    ∀ settlement, result.1 = .ok settlement → ∃ document next, body = some document ∧
      settlement = .settled ∧ result.2 = .opened next ∧
      session.store.Concedes sent current document now next ∧
      (session.store.Textual → document.Denoted → ¬ EntityMetadata.isTombstone document →
        let merged := session.store.taking (keyOf sent) document
        next.document? (keyOf sent) = some merged.reprinted ∧
          (next.document? (keyOf sent) = some merged ↔ merged.reprinted = merged)) ∧
      (sent ∈ session.awaited → ∀ events later, Runs (session.received sent next) events later →
        ∀ tables, ∀ row ∈ later.store.listOpen tables, row.id ≠ sent.id) := by
  have succeeds : (∃ result, session.store.settleWithServer sent body now = .ok result) ↔
      ¬ Rejects sent body ∧ ¬ session.store.Bars sent body :=
    Store.exists_settleWithServer found same
  have free : session.store.Textual → ¬ session.store.Bars sent body := fun textual =>
    textual.legible.not_bars inOrder
  rw [Store.settleWithServer_opened]
  cases settled : session.store.settleWithServer sent body now with
  | error fault =>
    refine ⟨iff_of_true ⟨fault, rfl⟩ ?_, free, fun _ _ => rfl, nofun⟩
    by_contra accepted
    obtain ⟨result, other⟩ := succeeds.mpr (not_or.mp accepted)
    cases settled.symm.trans other
  | ok result =>
    obtain ⟨settlement, next⟩ := result
    obtain ⟨document, given, rfl, concedes⟩ :=
      Store.concedes_of_settleWithServer found same inOrder settled
    refine ⟨iff_of_false nofun (not_or.mpr (succeeds.mp ⟨_, settled⟩)), free, nofun, ?_⟩
    rintro _ ⟨⟩
    refine ⟨document, next, given, rfl, rfl, concedes, fun textual denoted live => ?_,
      fun awaits events later runs => not_listed_of_concedes reachable awaits settled concedes runs⟩
    have read := concedes.document? textual.legible denoted live
    exact ⟨read, by rw [read, Option.some_inj]⟩

namespace Overruled

open Store.Drift (created operation recorded_creation listed_operation entity?_created
  read_render_document reread_number)

/-- What the remote holds of the entity: another version, and nothing of the number. -/
def remote : Document :=
  .object [("id", .text "1"), ("version", .text "v2")]

/-- What the remote's entity makes of the copy. -/
def merged : Document :=
  (Store.Drift.document false).setField EntityMetadata.versionField (.text "v2")

theorem denoted_remote : remote.Denoted := by
  refine .object (by decide) (List.pairwise_pair.mpr (by decide)) ?_
  exact List.forall_mem_cons.mpr ⟨.text, List.forall_mem_singleton.mpr .text⟩

theorem isEntity_remote : remote.IsEntity "1" :=
  ⟨⟨"1", none, some "v2", false⟩, rfl, rfl⟩

theorem textual_created : (created operation).Textual :=
  .step .empty (.edited recorded_creation)

theorem reachable_sent : Reachable ⟨created operation, [operation]⟩ := by
  have edited : Reachable ⟨created operation, []⟩ := .step .empty (.edited recorded_creation)
  exact edited.step (.listed listed_operation (by simp))

theorem taking_remote : (created operation).taking (keyOf operation) remote = merged := by
  have read : (created operation).document? (keyOf operation) =
      some (Store.Drift.document false) :=
    Option.bind_eq_some_iff.mpr ⟨_, entity?_created _, read_render_document true⟩
  rw [Store.taking, read]
  rfl

/-- The number is read as its neighbour. -/
theorem reprinted_merged : merged.reprinted ≠ merged := by
  intro back
  have found : merged.field? "x" = some (.number (.float (Store.Drift.number false))) := rfl
  have kept := Document.reprinted_field back found
  simp only [Document.reprinted, Number.reprinted, reread_number, Document.number.injEq,
    Number.float.injEq] at kept
  revert kept
  decide

end Overruled

/-- A conflict about a creation is conceded, and changes a number that the remote does not
know. -/
theorem conflict_conceded_iff_overruled :
    ∃ next, (Database.opened (Store.Drift.created Store.Drift.operation)).settleWithServer
        Store.Drift.operation (some Overruled.remote) ⟨0, 0⟩ = (.ok .settled, .opened next) ∧
      next.document? (keyOf Store.Drift.operation) ≠ some Overruled.merged ∧
      ∀ row ∈ next.listOpen [], row.id ≠ Store.Drift.operation.id := by
  have inOrder : ∀ document, some Overruled.remote = some document → document.Ascends := by
    rintro _ ⟨⟩
    exact Overruled.denoted_remote.ascends
  have found : (Store.Drift.created Store.Drift.operation).operation? Store.Drift.operation.id =
      some Store.Drift.operation := List.find?_cons_of_pos (beq_self_eq_true _)
  obtain ⟨refuses, free, -, settles⟩ :=
    conflict_conceded_iff Overruled.reachable_sent found rfl inOrder ⟨0, 0⟩
  have accepted : ¬ Rejects Store.Drift.operation (some Overruled.remote) :=
    Store.not_rejects_iff.mpr ⟨_, rfl, Overruled.isEntity_remote⟩
  cases answered : ((Database.opened (Store.Drift.created Store.Drift.operation)).settleWithServer
      Store.Drift.operation (some Overruled.remote) ⟨0, 0⟩).1 with
  | error fault =>
    exact absurd (refuses.mp ⟨fault, answered⟩)
      (not_or.mpr ⟨accepted, free Overruled.textual_created⟩)
  | ok settlement =>
    obtain ⟨_, next, ⟨⟩, rfl, changed, -, reads, ended⟩ := settles settlement answered
    obtain ⟨-, exactly⟩ := reads Overruled.textual_created Overruled.denoted_remote (by decide)
    rw [Overruled.taking_remote] at exactly
    refine ⟨next, Prod.ext answered changed, fun same => ?_, ?_⟩
    · exact Overruled.reprinted_merged (exactly.mp same)
    · exact ended (List.mem_singleton_self _) [] _ .refl []

end Session

end OfflineSync
