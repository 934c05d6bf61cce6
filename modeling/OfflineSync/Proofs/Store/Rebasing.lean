import OfflineSync.Proofs.Document.Reprinting
import OfflineSync.Proofs.Store.InFlight

/-!
# What a rebase leaves queued

An operation that gained edits in flight is rebased when its result comes, `Rebases`. A rebase after
a success knows what the remote holds from the kind that was sent: afterwards the entity awaits an
update or a creation there, `AwaitsUpdate` and `AwaitsCreation`. A rebase after a conflict knows it
from the answer, yet follows the same rules.
-/

namespace OfflineSync

/-- Nothing is created again behind a push that leaves the entity on the remote. -/
theorem rebasedKind_ne_add {sent current : OperationKind} (stays : sent ≠ .delete) :
    rebasedKind sent current ≠ .add := by
  cases sent <;> cases current <;> first | exact absurd rfl stays | decide

/-- Behind a removal, an operation with newer edits (`foldedKind`) creates its entity unless it
removes it once more. -/
theorem rebasedKind_foldedKind_delete (newest : OperationKind) :
    rebasedKind .delete (foldedKind .delete newest) = if newest = .delete then .delete else .add := by
  cases newest <;> rfl

namespace Operation

variable {operation : Operation} {sent : OperationKind} {version : Option String}

/-- A rebased creation is made on no version. -/
theorem entityVersion_rebase_add (creates : (operation.rebase sent version).kind = .add) :
    (operation.rebase sent version).entityVersion = none :=
  if_pos creates

/-- Any other rebased operation is made on the version that the result gave. -/
theorem entityVersion_rebase {given : String} (keeps : (operation.rebase sent version).kind ≠ .add)
    (known : version = some given) :
    (operation.rebase sent version).entityVersion = some given := by
  subst known
  exact if_neg keeps

end Operation

namespace Store

variable {store next : Store} {sent current : Operation} {newest : Option Mutation}
  {version : Option String} {body : Option Document} {now : Instant} {settlement : Settlement}

/-- What a rebase finds: the open operation of the entity sent, which carries the
newest edit. -/
structure Rebases (store : Store) (sent : Operation) (edit : Mutation) (current : Operation)
    (version : Option String) (next : Store) : Prop where
  found : store.openOperation? sent.table sent.itemId = some current
  carries : current.Carries edit
  folded : sent.kind ≠ .add → current.kind = foldedKind sent.kind edit.kind
  rebased : store.rebase current sent.kind version = .ok next

/-- The open operation of an entity that was rebased is the rebased one. -/
theorem Rebases.openOperation? {edit : Mutation}
    (rebases : store.Rebases sent edit current version next) (sound : store.QueueSound) :
    next.openOperation? sent.table sent.itemId = some (current.rebase sent.kind version) := by
  obtain ⟨queued, belongs, isOpen⟩ := mem_of_openOperation? rebases.found
  rw [Store.openOperation?, (differs_rebase rebases.rebased).queue]
  refine (sound.openOperation?_replaceOperation queued (current.revises_rebase sent.kind version)
    isOpen isOpen).trans ?_
  exact if_pos belongs

/-- An operation `InFlight` whose row has changed is rebased with its newest edit. -/
theorem InFlight.rebases (inFlight : store.InFlight sent newest)
    (found : store.operation? sent.id = some current) (newer : current.revision ≠ sent.revision)
    (rebased : store.rebase current sent.kind version = .ok next) :
    ∃ edit, newest = some edit ∧ store.Rebases sent edit current version next := by
  obtain ⟨sound, -, standing⟩ := inFlight
  cases standing with
  | untouched finds isOpen =>
    cases finds.symm.trans found
    exact absurd rfl newer
  | merged finds same _ kind carries =>
    cases finds.symm.trans found
    exact ⟨_, rfl,
      sound.openOperation?_of_sameEntity (mem_of_operation? found).1 carries.isOpen same,
      carries, fun _ => kind, rebased⟩
  | withdrawn creates gone free => exact absurd (gone.symm.trans found) (by simp)
  | renewed creates gone finds carries => exact absurd (gone.symm.trans found) (by simp)

/-- A creation in flight that was undone and renewed is rebased with the newest edit. -/
theorem InFlight.rebases_renewed (inFlight : store.InFlight sent newest)
    (gone : store.operation? sent.id = none) (creates : sent.kind = .add)
    (found : store.openOperation? sent.table sent.itemId = some current)
    (rebased : store.rebase current sent.kind version = .ok next) :
    ∃ edit, newest = some edit ∧ store.Rebases sent edit current version next := by
  cases inFlight.standing with
  | untouched finds isOpen => exact absurd (gone.symm.trans finds) (by simp)
  | merged finds same newer kind carries => exact absurd (gone.symm.trans finds) (by simp)
  | withdrawn _ _ free => exact absurd (free.symm.trans found) (by simp)
  | renewed _ _ finds carries =>
    cases finds.symm.trans found
    exact ⟨_, rfl, found, carries, fun keeps => absurd creates keeps, rebased⟩

/-- A successful push that rebases an operation in flight finds its newest edit
queued, or finds the creation undone and queues its removal. -/
theorem InFlight.rebases_of_completesPush (inFlight : store.InFlight sent newest)
    (completes : store.CompletesPush sent body version now .rebased next) :
    (∃ edit current, newest = some edit ∧ store.Rebases sent edit current version next) ∨
      sent.kind = .add ∧ store.openOperation? sent.table sent.itemId = none ∧
        next = store.appendOperation
          (Operation.ofMutation (followUpDelete sent version) (store.lastSequence + 1) now) := by
  cases completes with
  | rebased found newer rebased =>
    obtain ⟨edit, same, rebases⟩ := inFlight.rebases found newer rebased
    exact .inl ⟨edit, _, same, rebases⟩
  | recreated gone creates found rebased =>
    obtain ⟨edit, same, rebases⟩ := inFlight.rebases_renewed gone creates found rebased
    exact .inl ⟨edit, _, same, rebases⟩
  | undone gone creates free => exact .inr ⟨creates, free, rfl⟩

/-- The removal that follows an undone creation, `followUpDelete`, is the open operation of its
entity. -/
theorem openOperation?_followUpDelete (free : store.openOperation? sent.table sent.itemId = none)
    (version : Option String) (now : Instant) :
    (store.appendOperation
      (Operation.ofMutation (followUpDelete sent version) (store.lastSequence + 1) now)).openOperation?
        sent.table sent.itemId =
      some (Operation.ofMutation (followUpDelete sent version) (store.lastSequence + 1) now) := by
  rw [openOperation?_appendOperation (Operation.isOpen_ofMutation _ _ _) free, if_pos]
  exact Operation.isFor_iff.mpr ⟨rfl, rfl⟩

/-- The operation that is open for an entity updates or removes it on a version, as
far as one is given. -/
def AwaitsUpdate (store : Store) (table itemId : String) (version : Option String) : Prop :=
  ∃ row, store.openOperation? table itemId = some row ∧ (row.kind = .replace ∨ row.kind = .delete) ∧
    ∀ given, version = some given → row.entityVersion = some given

/-- An operation that is open for an entity creates it. -/
def AwaitsCreation (store : Store) (table itemId : String) : Prop :=
  ∀ row, store.openOperation? table itemId = some row → row.kind = .add ∧ row.entityVersion = none

/-- A rebase awaits an update (`AwaitsUpdate`) exactly if it leaves no creation. -/
theorem Rebases.awaitsUpdate {edit : Mutation} (rebases : store.Rebases sent edit current version next)
    (sound : store.QueueSound) :
    next.AwaitsUpdate sent.table sent.itemId version ↔ rebasedKind sent.kind current.kind ≠ .add := by
  have opens := rebases.openOperation? sound
  constructor
  · rintro ⟨row, found, kind, -⟩ creates
    cases found.symm.trans opens
    have changes : rebasedKind sent.kind current.kind = .replace ∨
        rebasedKind sent.kind current.kind = .delete := kind
    rw [creates] at changes
    rcases changes with replaces | deletes
    · cases replaces
    · cases deletes
  · intro keeps
    refine ⟨_, opens, ?_, fun given known => Operation.entityVersion_rebase keeps known⟩
    change rebasedKind sent.kind current.kind = .replace ∨ rebasedKind sent.kind current.kind = .delete
    cases rebased : rebasedKind sent.kind current.kind with
    | add => exact absurd rebased keeps
    | replace => exact .inl rfl
    | delete => exact .inr rfl

/-- A rebase awaits a creation (`AwaitsCreation`) exactly if it leaves one. -/
theorem Rebases.awaitsCreation {edit : Mutation}
    (rebases : store.Rebases sent edit current version next) (sound : store.QueueSound) :
    next.AwaitsCreation sent.table sent.itemId ↔ rebasedKind sent.kind current.kind = .add := by
  have opens := rebases.openOperation? sound
  constructor
  · intro awaits
    exact (awaits _ opens).1
  · intro creates row found
    cases found.symm.trans opens
    exact ⟨creates, Operation.entityVersion_rebase_add creates⟩

/-- Behind a removal that was sent, a rebase leaves a creation exactly if the newest
edit is not a removal. -/
theorem Rebases.creates {edit : Mutation} (rebases : store.Rebases sent edit current version next)
    (removes : sent.kind = .delete) :
    rebasedKind sent.kind current.kind = .add ↔ edit.kind ≠ .delete := by
  have folded := rebases.folded (by rw [removes]; decide)
  rw [folded, removes, rebasedKind_foldedKind_delete]
  split <;> simp [*]

variable {before during after : Store} {tables : List String} {edits : List (Mutation × Instant)}
  {header : Option String}

/-- An operation that was listed is `InFlight` while the edits of its entity are recorded. -/
theorem Reachable.inFlight (reachable : Reachable before) (listed : sent ∈ before.listOpen tables)
    (concerns : ∀ edit ∈ edits, edit.1.Concerns sent) (recorded : before.recordAll edits = .ok during) :
    during.InFlight sent (edits.getLast?.map Prod.fst) := by
  simpa using (reachable.queueSound.inFlight listed).recordAll concerns recorded

namespace Sample

/-- An entity. -/
def document : Document :=
  .object [("id", .text "1")]

/-- The entity with a version. -/
def versioned (version : String) : Document :=
  document.setField EntityMetadata.versionField (.text version)

theorem read_render_document : Document.read document.render = some document := by
  have readable : document.Readable Document.depthLimit := by
    refine .object (by decide) (List.pairwise_singleton ..) ?_
    exact List.forall_mem_singleton.mpr .text
  rw [readable.read_render]
  rfl

theorem usable_document : EntityMetadata.ofDocument document = .ok ⟨"1", none, none, false⟩ :=
  rfl

theorem usable_versioned (version : String) :
    EntityMetadata.ofDocument (versioned version) = .ok ⟨"1", none, some version, false⟩ :=
  rfl

/-- An edit of the entity. -/
def edit (kind : OperationKind) (version : Option String) : Mutation where
  kind
  table := "todo"
  itemId := "1"
  item := document.render
  before := none
  entityVersion := version

end Sample

namespace Removal

/-- An edit of an entity that the remote holds. -/
def edit (kind : OperationKind) : Mutation := Sample.edit kind (some "v1")

/-- A removal of the entity, as it is first queued. -/
def operation : Operation := .ofMutation (edit .delete) 1 ⟨0, 0⟩

/-- The store in which the removal alone is queued. -/
def queued : Store := empty.appendOperation operation

theorem recorded_removal :
    empty.recordLocalMutation (edit .delete) ⟨0, 0⟩ = .ok (.created operation, queued) :=
  rfl

theorem reachable_queued : Reachable queued :=
  .step .empty (.edited recorded_removal)

theorem listed_operation : operation ∈ queued.listOpen [] := by
  decide

/-- The store after the entity was created anew. -/
def recreated : Store where
  entities := [(⟨"todo", "1"⟩, .ofDocument Sample.document ⟨"1", none, none, false⟩)]
  queue := [operation.merge .replace (edit .add)]
  watermarks := []
  lastSequence := 1

theorem recorded_creation : queued.recordLocalMutation (edit .add) ⟨0, 0⟩ =
    .ok (.coalesced (operation.merge .replace (edit .add)), recreated) := by
  have applied : (queued.replaceOperation (operation.merge .replace (edit .add))).applyEdit
      (edit .add) = .ok recreated := by
    have read : Document.read (edit .add).item = some Sample.document :=
      Sample.read_render_document
    unfold applyEdit
    rw [read]
    exact addEntity_eq_ok.mpr ⟨_, Sample.usable_document, rfl, rfl⟩
  exact recordLocalMutation_eq rfl applied

/-- The store after a conflict about the removal was conceded. -/
def conceded : Store where
  entities := [(⟨"todo", "1"⟩, .ofDocument
    (Sample.document.setField EntityMetadata.versionField .null) ⟨"1", none, none, false⟩)]
  queue := [(operation.merge .replace (edit .add)).rebase .delete (some "v2")]
  watermarks := []
  lastSequence := 1

/-- The store after the entity was created anew and removed again. -/
def removedAgain : Store :=
  empty.appendOperation ((operation.merge .replace (edit .add)).merge .delete (edit .delete))

theorem recorded_secondRemoval : recreated.recordLocalMutation (edit .delete) ⟨0, 0⟩ =
    .ok (.coalesced ((operation.merge .replace (edit .add)).merge .delete (edit .delete)),
      removedAgain) :=
  rfl

end Removal

/-- A successful push that leaves its entity on the remote leaves an update or a removal
queued, made on the version answered: the store `AwaitsUpdate`. A pushed removal leaves nothing
but a creation queued (`AwaitsCreation`) exactly if the newest edit is not a removal: a removal
that was undone and made again stays queued for an entity that the remote no longer holds. -/
theorem awaits_of_pushed (reachable : Reachable before) (listed : sent ∈ before.listOpen tables)
    (concerns : ∀ edit ∈ edits, edit.1.Concerns sent) (recorded : before.recordAll edits = .ok during)
    (pushed : during.completePush sent body header now = .ok (.rebased, after)) :
    (sent.kind ≠ .delete →
      after.AwaitsUpdate sent.table sent.itemId (answeredVersion body header)) ∧
    (sent.kind = .delete →
      ∃ newest, edits.getLast?.map Prod.fst = some newest ∧
        (after.AwaitsCreation sent.table sent.itemId ↔ newest.kind ≠ .delete)) := by
  have inFlight := reachable.inFlight listed concerns recorded
  rcases inFlight.rebases_of_completesPush (completesPush_of_completePush pushed) with
    ⟨newest, current, last, rebases⟩ | ⟨creates, free, rfl⟩
  · constructor
    · intro stays
      exact (rebases.awaitsUpdate inFlight.sound).mpr (rebasedKind_ne_add stays)
    · intro removes
      exact ⟨newest, last, (rebases.awaitsCreation inFlight.sound).trans (rebases.creates removes)⟩
  · constructor
    · intro stays
      exact ⟨_, openOperation?_followUpDelete free _ _, .inr rfl, fun given known => known⟩
    · intro removes
      cases creates.symm.trans removes

/-- A removal that was undone and made again in flight stays queued behind itself. -/
theorem awaits_of_pushed_removedAgain :
    Removal.queued.recordAll [(Removal.edit .add, ⟨0, 0⟩), (Removal.edit .delete, ⟨0, 0⟩)] =
        .ok Removal.removedAgain ∧
      Removal.removedAgain.completePush Removal.operation none none ⟨0, 0⟩ =
        .ok (.rebased, Removal.removedAgain) ∧
      ¬ Removal.removedAgain.AwaitsCreation "todo" "1" := by
  have recorded : Removal.queued.recordAll
      [(Removal.edit .add, ⟨0, 0⟩), (Removal.edit .delete, ⟨0, 0⟩)] = .ok Removal.removedAgain := by
    rw [recordAll_cons Removal.recorded_creation, recordAll_cons Removal.recorded_secondRemoval]
    rfl
  have pushed : Removal.removedAgain.completePush Removal.operation none none ⟨0, 0⟩ =
      .ok (.rebased, Removal.removedAgain) :=
    rfl
  have awaits := awaits_of_pushed Removal.reachable_queued Removal.listed_operation (by decide)
    recorded pushed
  obtain ⟨newest, last, exactly⟩ := awaits.2 rfl
  cases last
  exact ⟨recorded, pushed, fun created => exactly.mp created rfl⟩

/-- A conflict that rebases an operation leaves the newest edit queued. The store
`AwaitsUpdate` on the version that the remote holds, and creates nothing, exactly unless a
removal was sent and the entity was edited anew: then a creation is queued for an entity that
the remote has just said it holds. -/
theorem awaits_of_conceded {document : Document} {metadata : EntityMetadata}
    (reachable : Reachable before) (listed : sent ∈ before.listOpen tables)
    (concerns : ∀ edit ∈ edits, edit.1.Concerns sent) (recorded : before.recordAll edits = .ok during)
    (usable : EntityMetadata.ofDocument document = .ok metadata) (live : metadata.deleted = false)
    (conceded : during.settleWithServer sent (some document) now = .ok (.rebased, after)) :
    ∃ newest row, edits.getLast?.map Prod.fst = some newest ∧
      after.openOperation? sent.table sent.itemId = some row ∧
      row.payload = Operation.payloadFor newest.kind newest.item ∧
      (after.AwaitsUpdate sent.table sent.itemId metadata.version ↔
        ¬ (sent.kind = .delete ∧ newest.kind ≠ .delete)) := by
  have inFlight := reachable.inFlight listed concerns recorded
  obtain ⟨given, described, answer, settles⟩ := settlesWithServer_of_settleWithServer conceded
  obtain ⟨same, known, -⟩ := conflictingEntity_eq_ok.mp answer
  cases same
  cases usable.symm.trans known
  cases settles with
  | rebased found newer rebased =>
    rw [live, if_neg Bool.false_ne_true] at rebased
    obtain ⟨newest, last, rebases⟩ := inFlight.rebases found newer rebased
    refine ⟨newest, _, last, rebases.openOperation? inFlight.sound, rebases.carries.payload, ?_⟩
    rw [rebases.awaitsUpdate inFlight.sound]
    by_cases removes : sent.kind = .delete
    · rw [ne_eq, rebases.creates removes]
      simp [removes]
    · simpa [removes] using rebasedKind_ne_add removes

/-- An entity that was created anew while its removal was refused is queued for
creation, though the remote still holds it. -/
theorem awaits_of_conceded_recreated :
    ∃ after, Removal.recreated.settleWithServer Removal.operation (some (Sample.versioned "v2"))
        ⟨0, 0⟩ = .ok (.rebased, after) ∧
      ¬ after.AwaitsUpdate "todo" "1" (some "v2") := by
  have recorded : Removal.queued.recordAll [(Removal.edit .add, ⟨0, 0⟩)] = .ok Removal.recreated := by
    rw [recordAll_cons Removal.recorded_creation]
    rfl
  have usable := Sample.usable_versioned "v2"
  have read : Removal.recreated.readEntity ⟨"todo", "1"⟩ =
      .ok (some ⟨"todo", "1", Sample.document, none, none⟩) :=
    readEntity_eq_ok_some.mpr
      ⟨_, rfl, EntityRow.read_eq_ok.mpr ⟨_, Sample.read_render_document, rfl⟩⟩
  have unversioned : EntityMetadata.ofDocument
      (Sample.document.setField EntityMetadata.versionField .null) = .ok ⟨"1", none, none, false⟩ :=
    rfl
  have rebased : Removal.recreated.rebase (Removal.operation.merge .replace (Removal.edit .add))
      .delete (some "v2") = .ok Removal.conceded := by
    refine rebase_eq_ok.mpr (.inr ⟨by decide, ?_⟩)
    exact setEntityVersion_eq_ok.mpr (.inl ⟨_, read, putEntity_eq_ok.mpr ⟨_, unversioned, rfl⟩⟩)
  have conceded : Removal.recreated.settleWithServer Removal.operation
      (some (Sample.versioned "v2")) ⟨0, 0⟩ = .ok (.rebased, Removal.conceded) :=
    bind_eq_ok.mpr ⟨_, conflictingEntity_eq_ok.mpr ⟨rfl, usable, rfl⟩,
      bind_eq_ok.mpr ⟨_, rebased, rfl⟩⟩
  have awaits := awaits_of_conceded Removal.reachable_queued Removal.listed_operation (by decide)
    recorded usable rfl conceded
  obtain ⟨newest, row, last, -, -, exactly⟩ := awaits
  cases last
  exact ⟨_, conceded, fun updated => exactly.mp updated ⟨rfl, by decide⟩⟩

end Store

end OfflineSync
