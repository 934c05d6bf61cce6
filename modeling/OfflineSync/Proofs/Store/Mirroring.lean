import OfflineSync.Proofs.Entity.Metadata
import OfflineSync.Proofs.Store.Rebasing

/-!
# What is queued is what the local copy shows

While an operation of an entity is open, the local copy `Mirrors` it, and shows what the operation
will send: there is none behind a removal, and otherwise it is the document of the newest edit,
which results of earlier pushes may have given a version since (`Document.Becomes`). Edits and
results keep it so.
-/

namespace OfflineSync

/-- The documents that a document becomes when its copy is read and written again with
another version. -/
inductive Document.Becomes (document : Document) : Document → Prop where
  | refl : Becomes document document
  | versioned {copy : Document} (earlier : Becomes document copy) (value : Document) :
      Becomes document (copy.reprinted.setField EntityMetadata.versionField value)

namespace Document.Becomes

variable {document copy : Document}

/-- What a document `Becomes` is an object exactly if the document is one. -/
theorem isObject (becomes : document.Becomes copy) : copy.isObject = document.isObject := by
  induction becomes with
  | refl => rfl
  | versioned earlier value inductionHypothesis =>
    simpa using inductionHypothesis

/-- A document neither gains nor loses a field but its version. -/
theorem field?_isSome (becomes : document.Becomes copy) (object : document.isObject) {name : String}
    (other : name ≠ EntityMetadata.versionField) :
    (copy.field? name).isSome = (document.field? name).isSome := by
  induction becomes with
  | refl => rfl
  | @versioned copy earlier value inductionHypothesis =>
    have copyObject : copy.reprinted.isObject := by
      simp [earlier.isObject, object]
    rw [field?_setField copyObject, if_neg other.symm, field?_reprinted, Option.isSome_map,
      inductionHypothesis]

end Document.Becomes

/-- Whether a row is the copy of a document of an entity: its text is that of the
document, which must be one that texts denote, and its columns are read off it. -/
structure EntityRow.IsCopy (row : EntityRow) (document : Document) (id : String) : Prop where
  readable : document.Readable Document.depthLimit
  columns : ∃ metadata, EntityMetadata.ofDocument document = .ok metadata ∧ metadata.id = id ∧
    EntityRow.ofDocument document metadata = row

namespace EntityRow.IsCopy

variable {row : EntityRow} {document : Document} {id : String}

theorem entity (isCopy : row.IsCopy document id) : document.IsEntity id := by
  obtain ⟨-, metadata, usable, same, -⟩ := isCopy
  exact ⟨metadata, usable, same⟩

/-- A copy is read as its document is read back, as `reprinted`. -/
theorem read_text (isCopy : row.IsCopy document id) : Document.read row.text = some document.reprinted := by
  obtain ⟨readable, metadata, -, -, rfl⟩ := isCopy
  exact readable.read_render

/-- A copy has its identity. -/
theorem idField (isCopy : row.IsCopy document id) :
    (document.field? EntityMetadata.idField).isSome := by
  obtain ⟨-, names, -⟩ := Document.IsEntity.iff_fields.mp isCopy.entity
  obtain ⟨value, found, -⟩ := EntityMetadata.idOf_eq_ok.mp names
  rw [found]
  rfl

/-- A document has one copy. -/
theorem eq {other : EntityRow} (isCopy : row.IsCopy document id)
    (otherIsCopy : other.IsCopy document id) : other = row := by
  obtain ⟨-, metadata, usable, -, rfl⟩ := isCopy
  obtain ⟨-, same, again, -, rfl⟩ := otherIsCopy
  cases usable.symm.trans again
  rfl

end EntityRow.IsCopy

/-- Whether the document that an edit writes is of the entity that the edit names. -/
def Mutation.OwnsItem (mutation : Mutation) : Prop :=
  mutation.kind ≠ .delete → ∀ document, Document.read mutation.item = some document →
    ∀ metadata, EntityMetadata.ofDocument document = .ok metadata → metadata.id = mutation.itemId

namespace Store

/-- Whether the local copy of an entity is what an operation of it will send. -/
inductive Mirrors (store : Store) (key : EntityKey) (operation : Operation) : Prop where
  | removed (deletes : operation.kind = .delete) (absent : store.entity? key = none) :
      Mirrors store key operation
  | held {row : EntityRow} {text : String} {document copy : Document}
      (keeps : operation.kind ≠ .delete) (payload : operation.payload = some text)
      (read : Document.read text = some document) (entity : document.IsEntity key.id)
      (becomes : document.Becomes copy) (found : store.entity? key = some row)
      (isCopy : row.IsCopy copy key.id) : Mirrors store key operation

variable {store next queued after : Store} {mutation : Mutation} {operation current : Operation}
  {key : EntityKey} {now : Instant} {outcome : EnqueueOutcome}

/-! ### Edits -/

/-- A written edit is mirrored (`Mirrors`) by the operation that carries it. -/
theorem WritesEdit.mirrors (writes : queued.WritesEdit mutation after) (own : mutation.OwnsItem)
    (carries : operation.Carries mutation) :
    after.Mirrors ⟨mutation.table, mutation.itemId⟩ operation := by
  have placed {document : Document} {metadata : EntityMetadata} (kind : mutation.kind ≠ .delete)
      (read : Document.read mutation.item = some document)
      (usable : EntityMetadata.ofDocument document = .ok metadata) :
      (queued.withCopy mutation.table document metadata).Mirrors
        ⟨mutation.table, mutation.itemId⟩ operation := by
    have same : metadata.id = mutation.itemId := own kind document read metadata usable
    have payload : operation.payload = some mutation.item := carries.payload_eq_some kind
    refine .held (fun deletes => kind (carries.deletes.mp deletes)) payload read
      ⟨metadata, usable, same⟩ .refl ?_ ⟨Document.readable_of_read read, metadata, usable, same, rfl⟩
    simp [same]
  cases writes with
  | removed kind =>
    exact .removed (carries.deletes.mpr kind) (by simp)
  | added kind read usable free => exact placed (by simp [kind]) read usable
  | replaced kind read usable => exact placed (by simp [kind]) read usable

/-- What an accepted edit leaves of its entity: an operation that the copy `Mirrors`, or nothing at
all. -/
inductive Edited (store : Store) (key : EntityKey) (next : Store) : Prop where
  /-- An operation is open that mirrors the edit. It creates the entity only if there was
  none, or an operation was open that created it. -/
  | queued {row : Operation} (found : next.openOperation? key.table key.id = some row)
      (mirrors : next.Mirrors key row)
      (created : row.kind = .add →
        store.openOperation? key.table key.id = none ∧ store.entity? key = none ∨
          ∃ present, store.openOperation? key.table key.id = some present ∧ present.kind = .add) :
      Edited store key next
  /-- The creation of the entity was undone. -/
  | cancelled {present : Operation}
      (free : next.openOperation? key.table key.id = none) (absent : next.entity? key = none)
      (found : store.openOperation? key.table key.id = some present) (creates : present.kind = .add) :
      Edited store key next

/-- The open operations are found in the queue alone. -/
theorem DiffersInCopies.openOperation? (differs : DiffersInCopies store next) (table itemId : String) :
    next.openOperation? table itemId = store.openOperation? table itemId := by
  rw [Store.openOperation?, Store.openOperation?, differs.queue]

/-- An accepted edit of an entity by its own identity is queued, or undoes a creation. -/
theorem edited_of_recordLocalMutation (sound : store.QueueSound) (own : mutation.OwnsItem)
    (recorded : store.recordLocalMutation mutation now = .ok (outcome, after)) :
    store.Edited ⟨mutation.table, mutation.itemId⟩ after := by
  obtain ⟨queued, enqueues, writes⟩ := recordLocalMutation_eq_ok recorded
  have opens := enqueues.opens sound
  rw [← writes.differsInCopies.openOperation? mutation.table mutation.itemId] at opens
  generalize opened : after.openOperation? mutation.table mutation.itemId = row at opens
  cases opens with
  | created free =>
    have carries := Operation.carries_ofMutation mutation (store.lastSequence + 1) now
    refine .queued opened (writes.mirrors own carries) fun creates => ?_
    refine .inl ⟨free, ?_⟩
    cases writes with
    | removed kind => cases creates.symm.trans kind
    | replaced kind read usable => cases creates.symm.trans kind
    | @added document metadata kind read usable absent =>
      rw [own (by simp [kind]) document read metadata usable, entity?, enqueues.entities] at absent
      exact absent
  | @merged present kind found transition =>
    have carries := Operation.carries_merge transition
    refine .queued opened (writes.mirrors own carries) fun creates => ?_
    cases (show kind = .add from creates)
    exact .inr ⟨present, found, (coalesceKinds_creates transition).mp rfl⟩
  | @cancelled present found creates deletes =>
    refine .cancelled opened ?_ found creates
    cases writes with
    | removed kind => simp
    | added kind read usable free => cases deletes.symm.trans kind
    | replaced kind read usable => cases deletes.symm.trans kind

/-! ### Results -/

/-- A rebased operation removes its entity, by `rebasedKind`, exactly if it did before. -/
theorem rebasedKind_eq_delete {sent present : OperationKind} :
    rebasedKind sent present = .delete ↔ present = .delete := by
  cases sent <;> cases present <;> decide

/-- The copy of a document is read as the document is read back. -/
theorem readEntity_of_isCopy {row : EntityRow} {document : Document}
    (found : store.entity? key = some row) (isCopy : row.IsCopy document key.id) :
    ∃ present, store.readEntity key = .ok (some present) ∧ present.document = document.reprinted :=
  ⟨_, readEntity_eq_ok_some.mpr ⟨row, found, EntityRow.read_eq_ok.mpr ⟨_, isCopy.read_text, rfl⟩⟩, rfl⟩

/-- A version can be set on a copy by `setEntityVersion`. It is written in place, or elsewhere if
its identity is a number that is not read back as it was printed. -/
theorem exists_setEntityVersion {row : EntityRow} {document : Document}
    (found : store.entity? key = some row) (isCopy : row.IsCopy document key.id)
    (version : Option String) :
    ∃ next, store.setEntityVersion key version = .ok next ∧
      (next.entity? key = some row ∨ ∃ written, next.entity? key = some written ∧
        written.IsCopy (document.reprinted.setField EntityMetadata.versionField
          (.optionalText version)) key.id) := by
  obtain ⟨present, read, same⟩ := readEntity_of_isCopy found isCopy
  obtain ⟨other, entity⟩ := isCopy.entity.reprinted
  obtain ⟨metadata, usable, named⟩ := entity.setVersion (.optionalText version)
  refine ⟨store.withCopy key.table (document.reprinted.setField EntityMetadata.versionField
    (.optionalText version)) metadata, ?_, ?_⟩
  · refine setEntityVersion_eq_ok.mpr (.inl ⟨present, read, putEntity_eq_ok.mpr ⟨metadata, ?_⟩⟩)
    rw [same]
    exact ⟨usable, rfl⟩
  · rw [entity?_withCopy]
    split
    · rename_i inPlace
      refine .inr ⟨_, rfl, ?_, metadata, usable, congrArg EntityKey.id inPlace, rfl⟩
      exact isCopy.readable.reprinted.setField (Document.readable_optionalText version)
    · exact .inl found

/-- A mirrored operation can be rebased, by `rebase`, and is mirrored still. -/
theorem Mirrors.exists_rebase (mirrors : store.Mirrors key current)
    (belongs : current.isFor key.table key.id) (sent : OperationKind) (version : Option String) :
    ∃ next, store.rebase current sent version = .ok next ∧
      next.Mirrors key (current.rebase sent version) := by
  obtain ⟨table, itemId⟩ := Operation.isFor_iff.mp belongs
  cases mirrors with
  | removed deletes absent =>
    have removes : (current.rebase sent version).kind = .delete := rebasedKind_eq_delete.mpr deletes
    exact ⟨_, rebase_eq_ok.mpr (.inl ⟨removes, rfl⟩), .removed removes absent⟩
  | @held row text document copy keeps payload read entity becomes found isCopy =>
    have stays : (current.rebase sent version).kind ≠ .delete := fun removes =>
      keeps (rebasedKind_eq_delete.mp removes)
    have replaced : (store.replaceOperation (current.rebase sent version)).entity? key = some row :=
      found
    obtain ⟨next, written, copied⟩ := exists_setEntityVersion replaced isCopy
      (current.rebase sent version).entityVersion
    refine ⟨next, rebase_eq_ok.mpr (.inr ⟨stays, ?_⟩), ?_⟩
    · rw [table, itemId]
      exact written
    · rcases copied with same | ⟨other, placed, otherCopy⟩
      · exact .held stays payload read entity becomes same isCopy
      · exact .held stays payload read entity (becomes.versioned _) placed otherCopy

/-- An answer that carries an entity with its version is merged as it is, by `mergeEntity`. -/
theorem adoptAnswer_eq_mergeEntity {body : Document} {version : Option String}
    (keeps : current.kind ≠ .delete) (object : body.isObject)
    (versioned : (body.field? EntityMetadata.versionField).isSome) :
    store.adoptAnswer current (some body) version = store.mergeEntity current.table body := by
  obtain ⟨fields, rfl⟩ := Document.isObject_iff.mp object
  unfold adoptAnswer
  cases kind : current.kind with
  | delete => exact absurd kind keeps
  | add | replace =>
    cases version with
    | none => rfl
    | some version =>
      change store.mergeEntity current.table
        ((Document.object fields).setFieldIfAbsent EntityMetadata.versionField (.text version)) = _
      rw [Document.setFieldIfAbsent, if_pos versioned]

/-- The answer that echoes what a mirrored operation sent can be adopted, and the local
copy is that of the answer. -/
theorem Mirrors.exists_adoptAnswer {text given : String} {document : Document}
    (mirrors : store.Mirrors key current) (belongs : current.isFor key.table key.id)
    (keeps : current.kind ≠ .delete) (payload : current.payload = some text)
    (read : Document.read text = some document) (version : Option String) :
    ∃ next row, store.adoptAnswer current
        (some (document.setField EntityMetadata.versionField (.text given))) version = .ok next ∧
      next.entity? key = some row ∧
      row.IsCopy (document.setField EntityMetadata.versionField (.text given)) key.id := by
  obtain ⟨table, -⟩ := Operation.isFor_iff.mp belongs
  cases mirrors with
  | removed deletes absent => exact absurd deletes keeps
  | @held row sentText sentDocument copy _ sentPayload sentRead entity becomes found isCopy =>
    cases payload.symm.trans sentPayload
    cases read.symm.trans sentRead
    have object := entity.isObject
    have answered (name : String) :
        (document.setField EntityMetadata.versionField (.text given)).field? name =
          if EntityMetadata.versionField = name then some (.text given) else document.field? name :=
      Document.field?_setField object
    have answeredObject :
        (document.setField EntityMetadata.versionField (.text given)).isObject := by
      simp [object]
    have answeredReadable : (document.setField EntityMetadata.versionField (.text given)).Readable
        Document.depthLimit := (Document.readable_of_read read).setField .text
    obtain ⟨metadata, usable, same⟩ := entity.setVersion (.text given)
    obtain ⟨present, readCopy, reprinted⟩ := readEntity_of_isCopy found isCopy
    have overlaid : present.document.overlay
        (document.setField EntityMetadata.versionField (.text given)) =
          document.setField EntityMetadata.versionField (.text given) := by
      rw [reprinted]
      refine Document.overlay_eq isCopy.readable.reprinted answeredReadable ?_ answeredObject ?_
      · simp [becomes.isObject, object]
      · intro name held
        rw [answered]
        split
        · rfl
        · rename_i other
          rw [Document.field?_reprinted, Option.isSome_map] at held
          rwa [becomes.field?_isSome object (Ne.symm other)] at held
    refine ⟨store.withCopy key.table (document.setField EntityMetadata.versionField (.text given))
      metadata, _, ?_, ?_, answeredReadable, metadata, usable, same, rfl⟩
    · rw [adoptAnswer_eq_mergeEntity keeps answeredObject (by rw [answered, if_pos rfl]; rfl), table]
      refine mergeEntity_eq_ok.mpr ⟨metadata, usable, .inl ⟨present, ?_, ?_⟩⟩
      · rw [same]
        exact readCopy
      · rw [overlaid]
        exact putEntity_eq_ok.mpr ⟨metadata, usable, rfl⟩
    · simp [same]

end Store

end OfflineSync
