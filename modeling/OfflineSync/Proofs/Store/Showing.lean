import OfflineSync.Proofs.Store.Confinement
import OfflineSync.Proofs.Store.Mirroring

/-!
# What is open is shown

The store `Displays` an entity when its local copy is what its open operation will send. An edit of
the entity displays it anew, and a result about it keeps it shown. Neither reaches another entity,
as long as the identity of each copy is read back as it was printed, `GivesBackField`.
-/

namespace OfflineSync

/-- Whether the reader gives back a field of a document. -/
def Document.GivesBackField (document : Document) (name : String) : Prop :=
  ∀ value, document.field? name = some value → value.reprinted = value

/-- Whether every document that an edit writes has a property. -/
def Mutation.Writes (mutation : Mutation) (property : Document → Prop) : Prop :=
  mutation.kind ≠ .delete → ∀ document, Document.read mutation.item = some document →
    property document

/-- Whether every document that an operation sends has a property. -/
def Operation.Carrying (operation : Operation) (property : Document → Prop) : Prop :=
  operation.kind ≠ .delete → ∀ text document, operation.payload = some text →
    Document.read text = some document → property document

namespace Document

variable {document copy : Document} {name : String}

/-- A document that is given back is so field by field. -/
theorem GivesBack.field (givesBack : document.GivesBack)
    (other : name ≠ EntityMetadata.versionField) : document.GivesBackField name :=
  fun value => givesBack name value other

/-- A field that the reader gives back (`GivesBackField`) is read as it is. -/
theorem GivesBackField.field?_reprinted (givesBack : document.GivesBackField name) :
    document.reprinted.field? name = document.field? name := by
  rw [Document.field?_reprinted]
  cases found : document.field? name with
  | none => rfl
  | some value => rw [Option.map_some, givesBack value found]

/-- A field that the reader gives back is kept in all that a document `Becomes`, however often a
version is set. -/
theorem Becomes.field?_eq (becomes : document.Becomes copy) (object : document.isObject)
    (givesBack : document.GivesBackField name) (other : name ≠ EntityMetadata.versionField) :
    copy.field? name = document.field? name := by
  induction becomes with
  | refl => rfl
  | @versioned copy earlier value inductionHypothesis =>
    have copyObject : copy.reprinted.isObject := by
      simp [earlier.isObject, object]
    have kept : copy.GivesBackField name := fun value found =>
      givesBack value (inductionHypothesis ▸ found)
    rw [field?_setField copyObject, if_neg other.symm, kept.field?_reprinted, inductionHypothesis]

/-- A copy of a document is read back with each field that the reader gives back. -/
theorem Becomes.field?_reprinted (becomes : document.Becomes copy) (object : document.isObject)
    (givesBack : document.GivesBackField name) (other : name ≠ EntityMetadata.versionField) :
    copy.reprinted.field? name = document.field? name := by
  have same := becomes.field?_eq object givesBack other
  have kept : copy.GivesBackField name := fun value found => givesBack value (same ▸ found)
  rw [kept.field?_reprinted, same]

end Document

/-- An operation that carries an edit (`Carries`) sends what the edit writes. -/
theorem Operation.Carries.carrying {operation : Operation} {mutation : Mutation}
    {property : Document → Prop} (carries : operation.Carries mutation)
    (writes : mutation.Writes property) : operation.Carrying property := by
  intro keeps text document payload read
  have kind : mutation.kind ≠ .delete := fun deletes => keeps (carries.deletes.mpr deletes)
  cases payload.symm.trans (carries.payload_eq_some kind)
  exact writes kind document read

namespace Store

variable {store next before after : Store} {mutation : Mutation} {sent row current : Operation}
  {key other : EntityKey} {now : Instant} {outcome : EnqueueOutcome}
  {property : Document → Prop}

/-- Whether the local copy of an entity is what its open operation will send, and that
has a property. -/
def Displays (store : Store) (property : Document → Prop) (key : EntityKey) : Prop :=
  ∀ row, store.openOperation? key.table key.id = some row →
    store.Mirrors key row ∧ row.Carrying property

/-! ### Other entities -/

/-- An operation of the same kind and payload is shown wherever the copy `Mirrors` it. -/
theorem Mirrors.carrying {later : Operation} (mirrors : before.Mirrors key row)
    (carrying : row.Carrying property) (copy : after.entity? key = before.entity? key)
    (kind : later.kind = row.kind) (payload : later.payload = row.payload) :
    after.Mirrors key later ∧ later.Carrying property := by
  constructor
  · cases mirrors with
    | removed deletes absent => exact .removed (kind.trans deletes) (copy.trans absent)
    | held keeps sends read entity becomes found isCopy =>
      exact .held (kind ▸ keeps) (payload.trans sends) read entity becomes (copy.trans found) isCopy
  · unfold Operation.Carrying
    rw [kind, payload]
    exact carrying

/-- What reaches another entity alone keeps an entity shown. -/
theorem Displays.beside (displays : before.Displays property other)
    (beside : SameBeside key before after) (writes : WritesOnly key before after)
    (differs : other ≠ key) : after.Displays property other := by
  intro row found
  rw [beside.openOperation? differs] at found
  obtain ⟨mirrors, carrying⟩ := displays row found
  exact mirrors.carrying carrying (writes other differs) rfl rfl

/-! ### Edits -/

/-- An edit of an entity by its own identity writes the copy of that entity alone. -/
theorem WritesEdit.writesOnly (writes : store.WritesEdit mutation next) (own : mutation.OwnsItem) :
    WritesOnly ⟨mutation.table, mutation.itemId⟩ store next := by
  have placed {document : Document} {metadata : EntityMetadata} (kind : mutation.kind ≠ .delete)
      (read : Document.read mutation.item = some document)
      (usable : EntityMetadata.ofDocument document = .ok metadata) :
      WritesOnly ⟨mutation.table, mutation.itemId⟩ store
        (store.withCopy mutation.table document metadata) := by
    intro other differs
    simp [own kind document read metadata usable, differs.symm]
  cases writes with
  | removed kind => exact .removeEntity
  | added kind read usable free => exact placed (by simp [kind]) read usable
  | replaced kind read usable => exact placed (by simp [kind]) read usable

/-- An accepted edit of an entity by its own identity reaches that entity alone. -/
theorem confined_of_recordLocalMutation (sound : store.QueueSound) (own : mutation.OwnsItem)
    (recorded : store.recordLocalMutation mutation now = .ok (outcome, after)) :
    SameBeside ⟨mutation.table, mutation.itemId⟩ store after ∧
      WritesOnly ⟨mutation.table, mutation.itemId⟩ store after := by
  obtain ⟨queued, enqueues, writes⟩ := recordLocalMutation_eq_ok recorded
  refine ⟨(enqueues.sameBeside sound).trans (.of_differs writes.differsInCopies), ?_⟩
  intro other differs
  rw [writes.writesOnly own other differs, entity?, enqueues.entities, entity?]

/-- What an accepted edit leaves open of its entity carries the edit. -/
theorem carries_of_recordLocalMutation (sound : store.QueueSound)
    (recorded : store.recordLocalMutation mutation now = .ok (outcome, after))
    (found : after.openOperation? mutation.table mutation.itemId = some row) :
    row.Carries mutation := by
  obtain ⟨queued, enqueues, written⟩ := recordLocalMutation_eq_ok recorded
  rw [written.differsInCopies.openOperation?] at found
  exact (enqueues.opens sound).carries found

/-- An accepted edit of an entity by its own identity `Displays` it. -/
theorem displays_of_recordLocalMutation (sound : store.QueueSound) (own : mutation.OwnsItem)
    (writes : mutation.Writes property)
    (recorded : store.recordLocalMutation mutation now = .ok (outcome, after)) :
    after.Displays property ⟨mutation.table, mutation.itemId⟩ := by
  intro row found
  refine ⟨?_, (carries_of_recordLocalMutation sound recorded found).carrying writes⟩
  cases edited_of_recordLocalMutation sound own recorded with
  | queued opens mirrors created =>
    cases found.symm.trans opens
    exact mirrors
  | cancelled free absent present creates => cases found.symm.trans free

/-- What an edit writes is read back from the local copy. -/
theorem WritesEdit.document?_eq {document : Document} (writes : store.WritesEdit mutation next)
    (own : mutation.OwnsItem) (keeps : mutation.kind ≠ .delete)
    (read : Document.read mutation.item = some document) :
    next.document? ⟨mutation.table, mutation.itemId⟩ = some document.reprinted := by
  have placed {written : Document} {metadata : EntityMetadata}
      (same : Document.read mutation.item = some written)
      (usable : EntityMetadata.ofDocument written = .ok metadata) :
      (store.withCopy mutation.table written metadata).document?
        ⟨mutation.table, mutation.itemId⟩ = some document.reprinted := by
    cases read.symm.trans same
    rw [Store.document?, entity?_withCopy, own keeps document read metadata usable, if_pos rfl]
    exact (Document.readable_of_read read).read_render
  cases writes with
  | removed kind => exact absurd kind keeps
  | added kind same usable free => exact placed same usable
  | replaced kind same usable => exact placed same usable

/-! ### Results -/

/-- Whether the operations under the identity sent are open and of the entity sent, and no
copy of the entity is left where nothing is open. -/
structure Awaits (store : Store) (sent : Operation) : Prop where
  handedOut : store.HandedOut sent
  finds : ∀ row ∈ store.queue, row.id = sent.id →
    row.isFor sent.table sent.itemId ∧ row.isOpen
  absent : store.openOperation? sent.table sent.itemId = none → store.entity? (keyOf sent) = none

/-- What is found under the identity sent is the open operation of its entity. -/
theorem Awaits.openOperation? (awaits : store.Awaits sent) (sound : store.QueueSound)
    (found : store.operation? sent.id = some current) :
    store.openOperation? sent.table sent.itemId = some current := by
  obtain ⟨queued, named⟩ := mem_of_operation? found
  exact sound.openOperation?_eq_some.mpr ⟨queued, awaits.finds current queued named⟩

/-- A rebase keeps an entity shown (`Displays`). -/
theorem Displays.rebase {kind : OperationKind} {version : Option String}
    (displays : store.Displays property (keyOf sent)) (sound : store.QueueSound)
    (found : store.openOperation? sent.table sent.itemId = some current)
    (rebased : store.rebase current kind version = .ok next) :
    next.Displays property (keyOf sent) := by
  obtain ⟨mirrors, carrying⟩ := displays current found
  obtain ⟨queued, belongs, isOpen⟩ := mem_of_openOperation? found
  obtain ⟨_, same, mirrored⟩ := mirrors.exists_rebase belongs kind version
  cases rebased.symm.trans same
  have rebasedFor : (current.rebase kind version).isFor sent.table sent.itemId := belongs
  have opens : next.openOperation? sent.table sent.itemId = some (current.rebase kind version) := by
    rw [(differs_rebase rebased).openOperation?, sound.openOperation?_replaceOperation queued
      (current.revises_rebase kind version) isOpen isOpen, if_pos rebasedFor]
  intro row rowFound
  cases opens.symm.trans rowFound
  exact ⟨mirrored, fun keeps => carrying fun deletes => keeps (rebasedKind_eq_delete.mpr deletes)⟩

/-- Where the operation that a store `Awaits` is settled, nothing is open of its entity. -/
theorem Awaits.unopened (awaits : store.Awaits sent) (sound : store.QueueSound)
    (found : store.operation? sent.id = some current)
    (settles : ∀ row ∈ next.queue, row.isOpen → row ∈ store.queue ∧ row.id ≠ sent.id) :
    next.openOperation? sent.table sent.itemId = none := by
  refine openOperation?_eq_none.mpr fun row queued belongs isOpen => ?_
  obtain ⟨wasQueued, differs⟩ := settles row queued isOpen
  have opens := sound.openOperation?_eq_some.mpr ⟨wasQueued, belongs, isOpen⟩
  cases opens.symm.trans (awaits.openOperation? sound found)
  exact differs (mem_of_operation? found).2

/-- Nothing that is open is to be shown. -/
theorem displays_of_unopened (free : store.openOperation? key.table key.id = none) :
    store.Displays property key := by
  intro row found
  cases free.symm.trans found

/-- A success keeps the entity sent shown. -/
theorem CompletesPush.displays {body : Option Document} {version : Option String}
    {settlement : Settlement}
    (completes : store.CompletesPush sent body version now settlement next)
    (displays : store.Displays property (keyOf sent)) (sound : store.QueueSound)
    (awaits : store.Awaits sent) : next.Displays property (keyOf sent) := by
  cases completes with
  | rebased found newer rebased =>
    exact displays.rebase sound (awaits.openOperation? sound found) rebased
  | settled found same adopts =>
    refine displays_of_unopened (awaits.unopened sound found fun row queued isOpen => ?_)
    rw [mem_removeOperation, (differs_adoptAnswer adopts).queue] at queued
    exact queued
  | vanished gone keeps => exact displays
  | recreated gone creates found rebased => exact displays.rebase sound found rebased
  | undone gone creates free =>
    -- Its copy was removed with the creation, so the removal that follows finds none.
    intro row found
    cases (openOperation?_followUpDelete free version now).symm.trans found
    exact ⟨.removed rfl (awaits.absent free), fun keeps => absurd rfl keeps⟩

/-- A conceded conflict keeps the entity sent shown. -/
theorem SettlesWithServer.displays {document : Document} {metadata : EntityMetadata}
    {settlement : Settlement}
    (settles : store.SettlesWithServer sent document metadata now settlement next)
    (displays : store.Displays property (keyOf sent)) (sound : store.QueueSound)
    (awaits : store.Awaits sent) : next.Displays property (keyOf sent) := by
  have closed {current : Operation} {copied : Store}
      (found : store.operation? sent.id = some current) (differs : DiffersInCopies store copied) :
      (copied.markCompleted sent.id now).Displays property (keyOf sent) := by
    refine displays_of_unopened (awaits.unopened sound found fun row queued isOpen => ?_)
    obtain ⟨present, wasQueued, rfl⟩ := mem_updateOperation.mp queued
    split at isOpen
    · exact absurd isOpen (by simp [Operation.isOpen])
    · rename_i other
      rw [if_neg other]
      exact ⟨differs.queue ▸ wasQueued, by simpa using other⟩
  cases settles with
  | rebased found newer rebased =>
    exact displays.rebase sound (awaits.openOperation? sound found) rebased
  | removed found same deleted => exact closed found differs_removeEntity
  | adopted found same live merges => exact closed found (differs_mergeEntity merges)
  | vanished gone => exact displays

/-- A failure keeps the entity sent shown. -/
theorem RecordsFailure.displays {status : Option Int} {reason : String} {marked : Bool}
    (records : store.RecordsFailure sent status reason now marked next)
    (displays : store.Displays property (keyOf sent)) (sound : store.QueueSound)
    (awaits : store.Awaits sent) : next.Displays property (keyOf sent) := by
  cases records with
  | unmarked changed => exact displays
  | @marked current found same alone =>
    intro row opens
    obtain ⟨queued, belongs, isOpen⟩ := mem_of_openOperation? opens
    obtain ⟨present, wasQueued, rfl⟩ := mem_updateOperation.mp queued
    have wasOpen : present.isFor sent.table sent.itemId ∧ present.isOpen := by
      split at belongs
      · rename_i named
        exact awaits.finds present wasQueued (beq_iff_eq.mp named)
      · rename_i other
        rw [if_neg other] at isOpen
        exact ⟨belongs, isOpen⟩
    obtain ⟨mirrors, carrying⟩ :=
      displays present (sound.openOperation?_eq_some.mpr ⟨wasQueued, wasOpen⟩)
    refine mirrors.carrying carrying rfl ?_ ?_ <;> split <;> rfl

/-! ### Answers -/

/-- Whether the entity that comes with a result is the one sent. -/
def Outcome.Answers (outcome : Outcome) (sent : Operation) : Prop :=
  ∀ document, outcome.body? = some document →
    document.Ascends ∧ ∀ id, document.IsEntity id → id = sent.itemId

variable {result : Outcome} {document : Document}

/-- An answer that `adoptAnswer` adopts under an identity is an entity. -/
theorem isEntity_of_adoptAnswer {id : String} {version : Option String}
    (keeps : sent.kind ≠ .delete) (names : EntityMetadata.idOf document = .ok id)
    (adopts : store.adoptAnswer sent (some document) version = .ok next) :
    document.IsEntity id := by
  have entity {merged : Document} (written : store.mergeEntity sent.table merged = .ok next)
      (same : ∀ id, merged.IsEntity id → document.IsEntity id) : document.IsEntity id := by
    obtain ⟨metadata, usable, -⟩ := mergeEntity_eq_ok.mp written
    have described := same metadata.id ⟨metadata, usable, rfl⟩
    obtain ⟨-, identity, -⟩ := Document.IsEntity.iff_fields.mp described
    cases names.symm.trans identity
    exact described
  obtain ⟨value, found, -⟩ := EntityMetadata.idOf_eq_ok.mp names
  cases document with
  | null | boolean | number | text | array => cases found
  | object fields =>
    unfold adoptAnswer at adopts
    split at adopts
    · exact absurd ‹_› keeps
    · rename_i given _
      cases given
      exact entity adopts fun _ described => described
    · rename_i given _
      cases given
      refine entity adopts fun id described => ?_
      unfold Document.setFieldIfAbsent at described
      split at described
      · exact described
      · exact Document.IsEntity.setVersion_iff.mp described
    · rename_i none _
      cases none
    · rename_i none _
      cases none

/-- A copy that is shown is read back under the identity of its entity. -/
theorem Displays.idOf (displays : store.Displays property (keyOf sent)) (awaits : store.Awaits sent)
    (named : ∀ document, property document → document.GivesBackField EntityMetadata.idField)
    (held : store.document? (keyOf sent) = some document) :
    EntityMetadata.idOf document = .ok sent.itemId := by
  cases opens : store.openOperation? sent.table sent.itemId with
  | none =>
    cases (document?_eq_none (awaits.absent opens)).symm.trans held
  | some row =>
    obtain ⟨mirrors, carrying⟩ := displays row opens
    cases mirrors with
    | removed deletes absent =>
      cases (document?_eq_none absent).symm.trans held
    | @held row text payload copy keeps sends read entity becomes found isCopy =>
      cases (document?_of_read found isCopy.read_text).symm.trans held
      obtain ⟨object, identity, -⟩ := Document.IsEntity.iff_fields.mp entity
      have givesBack := named payload (carrying keeps text payload sends read)
      have same := becomes.field?_reprinted object givesBack (by decide)
      rw [EntityMetadata.idOf, same]
      exact identity

/-- No result `Strays` from the entity sent, if it is shown under an identity that is given back. -/
theorem Displays.not_strays (displays : store.Displays property (keyOf sent))
    (awaits : store.Awaits sent)
    (named : ∀ document, property document → document.GivesBackField EntityMetadata.idField)
    (answers : result.Answers sent) (received : store.receive sent result now = .ok next) :
    ¬ store.Strays sent result key := by
  intro strays
  cases strays with
  | @body current document header id found same keeps names differs =>
    obtain ⟨completes⟩ := receives_of_receive received
    cases completes with
    | rebased finds newer rebased =>
      cases found.symm.trans finds
      exact newer same
    | settled finds again adopts =>
      exact differs ((answers _ rfl).2 _ (isEntity_of_adoptAnswer keeps names adopts))
    | vanished gone => cases found.symm.trans gone
    | recreated gone => cases found.symm.trans gone
    | undone gone => cases found.symm.trans gone
  | copy answered held names differs =>
    have identity := displays.idOf awaits named held
    cases names.symm.trans identity
    exact differs rfl

/-- A result keeps the entity sent shown, and reaches no other. -/
theorem Displays.receive (displays : store.Displays property (keyOf sent))
    (sound : store.QueueSound) (awaits : store.Awaits sent)
    (named : ∀ document, property document → document.GivesBackField EntityMetadata.idField)
    (answers : result.Answers sent) (received : store.receive sent result now = .ok next) :
    next.Displays property (keyOf sent) ∧ SameBeside (keyOf sent) store next ∧
      WritesOnly (keyOf sent) store next := by
  have own : store.FindsOwn sent := fun row queued named => (awaits.finds row queued named).1
  obtain ⟨beside, key, strays, writes⟩ := confined_of_receive sound own
    (fun document given => (answers document given).1) received
  have reached : key = keyOf sent :=
    strays.resolve_right (displays.not_strays awaits named answers received)
  refine ⟨?_, beside, reached ▸ writes⟩
  cases receives_of_receive received with
  | accepted completes => exact completes.displays displays sound awaits
  | conceded described settles => exact settles.displays displays sound awaits
  | refused records => exact records.displays displays sound awaits

end Store

end OfflineSync
