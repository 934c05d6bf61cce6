import OfflineSync.Proofs.Fallible
import OfflineSync.Store.Entities

/-!
# Writing local copies

Every write to the local copies is one of two: a document is placed under the identity it carries,
`withCopy`, or a copy is removed. Lemmas such as `putEntity_eq_ok` and `mergeEntity_eq_ok` say for
each call which write it makes, and `DiffersInCopies` that it leaves queue, watermarks and counter
alone.
-/

namespace OfflineSync

/-- A row reads as the document that its text is. -/
theorem EntityRow.read_eq_ok {key : EntityKey} {row : EntityRow} {present : StoredEntity} :
    row.read key = .ok present ↔
      ∃ document, Document.read row.text = some document ∧
        ⟨key.table, key.id, document, row.version, row.updatedMicros.bind Instant.ofMicros?⟩ =
          present := by
  unfold EntityRow.read
  cases Document.read row.text <;> simp

namespace Store

/-- Whether two stores differ in their local copies alone. -/
structure DiffersInCopies (before after : Store) : Prop where
  queue : after.queue = before.queue
  watermarks : after.watermarks = before.watermarks
  lastSequence : after.lastSequence = before.lastSequence

namespace DiffersInCopies

theorem refl (store : Store) : DiffersInCopies store store := ⟨rfl, rfl, rfl⟩

end DiffersInCopies

/-- A store with a document placed under the identity it carries. -/
def withCopy (store : Store) (table : String) (document : Document) (metadata : EntityMetadata) :
    Store :=
  { store with
    entities :=
      KeyedList.insert ⟨table, metadata.id⟩ (EntityRow.ofDocument document metadata) store.entities }

variable {store next : Store} {table : String} {document : Document} {metadata : EntityMetadata}
  {key other : EntityKey}

/-- A placed copy is found under its key, and every other copy stays. -/
@[simp] theorem entity?_withCopy :
    (store.withCopy table document metadata).entity? other =
      if (⟨table, metadata.id⟩ : EntityKey) = other then some (.ofDocument document metadata)
      else store.entity? other :=
  KeyedList.get?_insert _ other _ store.entities

theorem differs_withCopy : DiffersInCopies store (store.withCopy table document metadata) :=
  ⟨rfl, rfl, rfl⟩

theorem differs_removeEntity : DiffersInCopies store (store.removeEntity key) :=
  ⟨rfl, rfl, rfl⟩

/-- Metadata is reported to the store unchanged. -/
theorem metadataOf_eq_ok :
    metadataOf document = .ok metadata ↔ EntityMetadata.ofDocument document = .ok metadata :=
  mapError_eq_ok

/-- A document is written by `putEntity` exactly when it has metadata, and is then placed
(`withCopy`). -/
theorem putEntity_eq_ok :
    store.putEntity table document = .ok next ↔
      ∃ metadata, EntityMetadata.ofDocument document = .ok metadata ∧
        store.withCopy table document metadata = next := by
  simp only [putEntity, bind_eq_ok, pure_eq_ok, metadataOf_eq_ok]
  rfl

/-- A document is added by `addEntity` exactly when it has metadata and its identity is free. -/
theorem addEntity_eq_ok :
    store.addEntity table document = .ok next ↔
      ∃ metadata, EntityMetadata.ofDocument document = .ok metadata ∧
        store.entity? ⟨table, metadata.id⟩ = none ∧
        store.withCopy table document metadata = next := by
  unfold addEntity
  simp only [bind_eq_ok, metadataOf_eq_ok]
  constructor
  · rintro ⟨metadata, usable, added⟩
    split at added
    · simp [throw, throwThe, MonadExceptOf.throw, bind, Except.bind] at added
    · rename_i free
      obtain ⟨written, same, placed⟩ := putEntity_eq_ok.mp (by simpa [bind, Except.bind] using added)
      cases usable.symm.trans same
      exact ⟨metadata, usable, by simpa using free, placed⟩
  · rintro ⟨metadata, usable, free, placed⟩
    refine ⟨metadata, usable, ?_⟩
    simpa [free, bind, Except.bind, pure, Except.pure] using
      putEntity_eq_ok.mpr ⟨metadata, usable, placed⟩

/-- A document is not written if it has no metadata. -/
theorem putEntity_eq_error {fault : StoreError} :
    store.putEntity table document = .error fault ↔
      ∃ invalid, EntityMetadata.ofDocument document = .error invalid ∧
        StoreError.ofValidation invalid = fault := by
  unfold putEntity metadataOf
  rw [bind_eq_error, mapError_eq_error]
  simp [pure, Except.pure]

/-- A document is not added if it has no metadata or its identity is taken. -/
theorem addEntity_eq_error {fault : StoreError} :
    store.addEntity table document = .error fault ↔
      (∃ invalid, EntityMetadata.ofDocument document = .error invalid ∧
          StoreError.ofValidation invalid = fault) ∨
        ∃ metadata copy, EntityMetadata.ofDocument document = .ok metadata ∧
          store.entity? ⟨table, metadata.id⟩ = some copy ∧
          .uniqueViolation entityKeyColumns (table ++ "/" ++ metadata.id) = fault := by
  unfold addEntity
  rw [bind_eq_error]
  refine or_congr ?_ (exists_congr fun metadata => ?_)
  · unfold metadataOf
    exact mapError_eq_error
  · rw [metadataOf_eq_ok, exists_and_left]
    refine and_congr_right fun usable => ?_
    have written : store.putEntity table document =
        .ok (store.withCopy table document metadata) := putEntity_eq_ok.mpr ⟨metadata, usable, rfl⟩
    cases store.entity? ⟨table, metadata.id⟩ with
    | none => simp [written]
    | some copy => simp [throw, throwThe, MonadExceptOf.throw, bind, Except.bind]

/-- A copy is read by `readEntity` exactly when it is there and its text is a document. -/
theorem readEntity_eq_ok_some {present : StoredEntity} :
    store.readEntity key = .ok (some present) ↔
      ∃ row, store.entity? key = some row ∧ row.read key = .ok present := by
  unfold readEntity
  cases store.entity? key with
  | none => simp
  | some row => simp [map_eq_ok]

/-- No copy is read exactly when there is none. -/
theorem readEntity_eq_ok_none : store.readEntity key = .ok none ↔ store.entity? key = none := by
  unfold readEntity
  cases store.entity? key with
  | none => simp
  | some row => simp [map_eq_ok]

/-- A remote document is merged by `mergeEntity` exactly when it has metadata and either the copy it
meets can be read and overlaid, or it meets none and is placed itself. -/
theorem mergeEntity_eq_ok :
    store.mergeEntity table document = .ok next ↔
      ∃ metadata, EntityMetadata.ofDocument document = .ok metadata ∧
        ((∃ present, store.readEntity ⟨table, metadata.id⟩ = .ok (some present) ∧
            store.putEntity table (present.document.overlay document) = .ok next) ∨
          (store.entity? ⟨table, metadata.id⟩ = none ∧ store.putEntity table document = .ok next)) := by
  unfold mergeEntity
  simp only [bind_eq_ok, metadataOf_eq_ok, ← readEntity_eq_ok_none]
  refine exists_congr fun metadata => and_congr_right fun usable => ?_
  constructor
  · rintro ⟨_ | present, read, written⟩
    · exact .inr ⟨read, written⟩
    · exact .inl ⟨present, read, written⟩
  · rintro (⟨present, read, written⟩ | ⟨read, written⟩)
    · exact ⟨some present, read, written⟩
    · exact ⟨none, read, written⟩

/-- A version is set by `setEntityVersion` exactly when the copy can be read and written back with
it, or there is no copy and nothing changes. -/
theorem setEntityVersion_eq_ok {version : Option String} :
    store.setEntityVersion key version = .ok next ↔
      (∃ present, store.readEntity key = .ok (some present) ∧
        store.putEntity key.table
          (present.document.setField EntityMetadata.versionField (.optionalText version)) = .ok next) ∨
      (store.entity? key = none ∧ store = next) := by
  unfold setEntityVersion
  simp only [bind_eq_ok, ← readEntity_eq_ok_none]
  constructor
  · rintro ⟨_ | present, read, written⟩
    · exact .inr ⟨read, pure_eq_ok.mp written⟩
    · exact .inl ⟨present, read, written⟩
  · rintro (⟨present, read, written⟩ | ⟨read, unchanged⟩)
    · exact ⟨some present, read, written⟩
    · exact ⟨none, read, pure_eq_ok.mpr unchanged⟩

theorem differs_putEntity (written : store.putEntity table document = .ok next) :
    DiffersInCopies store next := by
  obtain ⟨metadata, -, rfl⟩ := putEntity_eq_ok.mp written
  exact differs_withCopy

theorem differs_mergeEntity (written : store.mergeEntity table document = .ok next) :
    DiffersInCopies store next := by
  obtain ⟨metadata, -, ⟨present, -, placed⟩ | ⟨-, placed⟩⟩ := mergeEntity_eq_ok.mp written
  · exact differs_putEntity placed
  · exact differs_putEntity placed

theorem differs_setEntityVersion {version : Option String}
    (written : store.setEntityVersion key version = .ok next) : DiffersInCopies store next := by
  obtain ⟨present, -, placed⟩ | ⟨-, rfl⟩ := setEntityVersion_eq_ok.mp written
  · exact differs_putEntity placed
  · exact .refl store

end Store

end OfflineSync
