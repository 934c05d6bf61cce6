import OfflineSync.Proofs.Store.AcceptedAnswers
import OfflineSync.Proofs.Store.Mirroring
import OfflineSync.Proofs.Store.Reachable

/-!
# Legible copies

Items, answers and rows come as texts. So long as they do, what is written to the local copies can
be read again (`Store.Legible`): a call places a document that a text denotes, lays one over what
was read of a copy, or sets a version on that. In such a store every answer that describes an entity
can be laid over the copy of it, `Legible.canChange`.
-/

namespace OfflineSync

/-- Whether a document may have come as a text: `Readable` at the depth to which texts are read. -/
abbrev Document.Denoted (document : Document) : Prop :=
  document.Readable Document.depthLimit

namespace Document

/-- A version that is given can be read back with the document. -/
theorem Readable.withGivenVersion {document : Document} (denoted : document.Denoted)
    (version : Option String) : (document.withGivenVersion version).Denoted := by
  cases version with
  | none => exact denoted
  | some version =>
    change (document.setFieldIfAbsent EntityMetadata.versionField (.text version)).Denoted
    unfold setFieldIfAbsent
    split
    · exact denoted
    · exact denoted.setField .text

end Document

namespace Store

/-- Whether every local copy is that of a document that may have come as a text. -/
def Legible (store : Store) : Prop :=
  ∀ key copy, store.entity? key = some copy → ∃ document, copy.IsCopy document key.id

/-- Whether every local copy of a store was held before, so that it stays `Legible`. -/
def Withholds (before after : Store) : Prop :=
  ∀ key copy, after.entity? key = some copy → before.entity? key = some copy

variable {store next : Store} {table tokenKey id : String} {document row : Document}
  {metadata : EntityMetadata} {mutation : Mutation} {sent operation : Operation}
  {body : Option Document} {version : Option String} {key : EntityKey} {now : Instant}
  {settlement : Settlement} {copy : EntityRow}

namespace Legible

theorem empty : Legible Store.empty :=
  nofun

/-- Fewer copies are legible too. -/
theorem withholds (legible : store.Legible) (fewer : Withholds store next) : next.Legible :=
  fun key copy found => legible key copy (fewer key copy found)

/-- What is read of a legible copy is an entity, though its identity may be another number. -/
theorem document? (legible : store.Legible) (found : store.entity? key = some copy) :
    ∃ document, store.document? key = some document ∧ document.Denoted ∧
      ∃ id, document.IsEntity id := by
  obtain ⟨document, isCopy⟩ := legible key copy found
  exact ⟨document.reprinted, document?_of_read found isCopy.read_text, isCopy.readable.reprinted,
    isCopy.entity.reprinted⟩

/-- Every legible copy can be read by `readEntity`. -/
theorem exists_readEntity (legible : store.Legible) (key : EntityKey) :
    ∃ present, store.readEntity key = .ok present := by
  cases found : store.entity? key with
  | none => exact ⟨none, readEntity_eq_ok_none.mpr found⟩
  | some copy =>
    obtain ⟨document, held, -⟩ := legible.document? found
    obtain ⟨present, read, -⟩ := document?_eq_some.mp held
    exact ⟨some present, read⟩

/-- An entity can be laid over any legible copy. -/
theorem canChange (legible : store.Legible) (entity : document.IsEntity id)
    (ascends : document.Ascends) (key : EntityKey) :
    store.CanChange key fun older => older.overlay document := by
  cases found : store.entity? key with
  | none => exact .inl found
  | some copy =>
    obtain ⟨older, held, -, other, olderEntity⟩ := legible.document? found
    exact .inr ⟨older, held, id, olderEntity.overlay entity ascends⟩

/-! ### Writes -/

theorem withCopy (legible : store.Legible) (denoted : document.Denoted)
    (usable : EntityMetadata.ofDocument document = .ok metadata) :
    (store.withCopy table document metadata).Legible := by
  intro key copy found
  rw [entity?_withCopy] at found
  split at found
  · rename_i named
    cases found
    exact ⟨document, denoted, metadata, usable, congrArg EntityKey.id named, rfl⟩
  · exact legible key copy found

theorem removeEntity (legible : store.Legible) : (store.removeEntity key).Legible := by
  refine legible.withholds fun other copy found => ?_
  obtain ⟨-, held⟩ : key ≠ other ∧ store.entity? other = some copy := by simpa using found
  exact held

theorem putEntity (legible : store.Legible) (denoted : document.Denoted)
    (written : store.putEntity table document = .ok next) : next.Legible := by
  obtain ⟨metadata, usable, rfl⟩ := putEntity_eq_ok.mp written
  exact legible.withCopy denoted usable

/-- What `mergeEntity` lays over a legible copy is legible, as it is laid over what was read. -/
theorem mergeEntity (legible : store.Legible) (denoted : document.Denoted)
    (written : store.mergeEntity table document = .ok next) : next.Legible := by
  obtain ⟨metadata, -, ⟨present, read, placed⟩ | ⟨-, placed⟩⟩ := mergeEntity_eq_ok.mp written
  · obtain ⟨copy, -, read⟩ := readEntity_eq_ok_some.mp read
    obtain ⟨older, denotes, rfl⟩ := EntityRow.read_eq_ok.mp read
    exact legible.putEntity ((Document.readable_of_read denotes).overlay denoted) placed
  · exact legible.putEntity denoted placed

theorem setEntityVersion (legible : store.Legible)
    (written : store.setEntityVersion key version = .ok next) : next.Legible := by
  obtain ⟨present, read, placed⟩ | ⟨-, rfl⟩ := setEntityVersion_eq_ok.mp written
  · obtain ⟨copy, -, read⟩ := readEntity_eq_ok_some.mp read
    obtain ⟨older, denotes, rfl⟩ := EntityRow.read_eq_ok.mp read
    exact legible.putEntity
      ((Document.readable_of_read denotes).setField (Document.readable_optionalText version)) placed
  · exact legible

theorem adoptAnswer (legible : store.Legible)
    (denoted : ∀ document, body = some document → document.Denoted)
    (adopted : store.adoptAnswer sent body version = .ok next) : next.Legible := by
  have object {fields : List (String × Document)}
      (given : body.bind Document.fields? = some fields) : (Document.object fields).Denoted := by
    obtain ⟨document, rfl, same⟩ := Option.bind_eq_some_iff.mp given
    exact Document.fields?_eq_some.mp same ▸ denoted document rfl
  unfold Store.adoptAnswer at adopted
  split at adopted
  · cases adopted
    exact legible.removeEntity
  · rename_i given _
    exact legible.mergeEntity (object given) adopted
  · rename_i given _
    exact legible.mergeEntity ((object given).withGivenVersion (some _)) adopted
  · exact legible.setEntityVersion adopted
  · cases adopted
    exact legible

theorem rebase {kind : OperationKind} (legible : store.Legible)
    (rebased : store.rebase operation kind version = .ok next) : next.Legible := by
  rcases rebase_eq_ok.mp rebased with ⟨-, rfl⟩ | ⟨-, written⟩
  · exact legible
  · have replaced : (store.replaceOperation (operation.rebase kind version)).Legible := legible
    exact replaced.setEntityVersion written

end Legible

/-! ### Calls -/

theorem WritesEdit.legible (writes : store.WritesEdit mutation next) (legible : store.Legible) :
    next.Legible := by
  cases writes with
  | removed kind => exact legible.removeEntity
  | added kind read usable free => exact legible.withCopy (Document.readable_of_read read) usable
  | replaced kind read usable => exact legible.withCopy (Document.readable_of_read read) usable

theorem CompletesPush.legible
    (completes : store.CompletesPush sent body version now settlement next)
    (legible : store.Legible) (denoted : ∀ document, body = some document → document.Denoted) :
    next.Legible := by
  cases completes with
  | rebased found newer rebased => exact legible.rebase rebased
  | settled found same adopts =>
    have adopted := legible.adoptAnswer denoted adopts
    exact adopted
  | vanished gone keeps => exact legible
  | recreated gone creates found rebased => exact legible.rebase rebased
  | undone gone creates free => exact legible

theorem SettlesWithServer.legible
    (settles : store.SettlesWithServer sent document metadata now settlement next)
    (legible : store.Legible) (denoted : document.Denoted) : next.Legible := by
  cases settles with
  | rebased found newer rebased => exact legible.rebase rebased
  | removed found same deleted =>
    have removed : (store.removeEntity ⟨sent.table, sent.itemId⟩).Legible := legible.removeEntity
    exact removed
  | adopted found same live merges =>
    have merged := legible.mergeEntity denoted merges
    exact merged
  | vanished gone => exact legible

theorem PlacesRow.legible {outcome : RowOutcome}
    (places : store.PlacesRow table row metadata outcome next) (legible : store.Legible)
    (denoted : row.Denoted) : next.Legible := by
  cases places with
  | skipped removes absent => exact legible
  | deleted removes found => exact legible.removeEntity
  | inserted keeps absent written => exact legible.putEntity denoted written
  | replaced keeps found denotes written =>
    exact legible.putEntity ((Document.readable_of_read denotes).overlay denoted) written

/-- A row that comes as a text leaves legible copies. -/
theorem Legible.of_applyKnownRow {outcome : RowOutcome} (legible : store.Legible)
    (denoted : row.Denoted) (usable : EntityMetadata.ofDocument row = .ok metadata)
    (applied : store.applyKnownRow table row metadata tokenKey = .ok (outcome, next)) :
    next.Legible := by
  obtain ⟨placed, places, rfl⟩ := placesRow_of_applyKnownRow usable applied
  intro key copy found
  exact places.legible legible denoted key copy (by simpa using found)

/-- A row that comes as a text can be applied to legible copies by `applyKnownRow`. -/
theorem Legible.exists_applyKnownRow (legible : store.Legible) (denoted : row.Denoted)
    (usable : EntityMetadata.ofDocument row = .ok metadata) (table tokenKey : String) :
    ∃ outcome next, store.applyKnownRow table row metadata tokenKey = .ok (outcome, next) := by
  have entity : row.IsEntity metadata.id := ⟨metadata, usable, rfl⟩
  obtain ⟨present, read⟩ := legible.exists_readEntity ⟨table, metadata.id⟩
  obtain ⟨placed, written⟩ : ∃ placed, store.putEntity table row = .ok placed :=
    exists_putEntity.mpr ⟨metadata.id, entity⟩
  obtain ⟨merged, laid⟩ : ∃ merged, store.mergeEntity table row = .ok merged :=
    exists_mergeEntity.mpr ⟨metadata.id, entity, legible.canChange entity denoted.ascends _⟩
  simp only [applyKnownRow, read, written, laid]
  cases metadata.deleted <;> cases present <;> exact ⟨_, _, rfl⟩

/-- Rows that come as texts are all applied to legible copies by `applyPage`, and leave them
legible. -/
theorem Legible.applyPage (legible : store.Legible) {rows : List Document}
    (denoted : ∀ row ∈ rows, row.Denoted) :
    (∃ counts, (store.applyPage table tokenKey rows).1 = .ok counts) ∧
      (store.applyPage table tokenKey rows).2.Legible := by
  induction rows generalizing store with
  | nil => exact ⟨⟨.none, rfl⟩, legible⟩
  | cons row rest inductionHypothesis =>
    obtain ⟨first, others⟩ := List.forall_mem_cons.mp denoted
    unfold Store.applyPage
    cases usable : EntityMetadata.ofDocument row with
    | error fault =>
      obtain ⟨⟨counts, counted⟩, kept⟩ := inductionHypothesis legible others
      exact ⟨⟨_, map_eq_ok.mpr ⟨counts, counted, rfl⟩⟩, kept⟩
    | ok metadata =>
      obtain ⟨outcome, next, applied⟩ := legible.exists_applyKnownRow first usable table tokenKey
      obtain ⟨⟨counts, counted⟩, kept⟩ :=
        inductionHypothesis (legible.of_applyKnownRow first usable applied) others
      simp only [applied]
      exact ⟨⟨_, map_eq_ok.mpr ⟨counts, counted, rfl⟩⟩, kept⟩

/-- The calls, where every document that is handed over has come as a text. -/
inductive TextualStep (store : Store) : Store → Prop where
  /-- A call that writes no copy. -/
  | keeping {next : Store} (call : Step store next) (fewer : Withholds store next) :
      TextualStep store next
  | edited {mutation : Mutation} {now : Instant} {outcome : EnqueueOutcome} {next : Store}
      (recorded : store.recordLocalMutation mutation now = .ok (outcome, next)) :
      TextualStep store next
  | pushed {sent : Operation} {body : Option Document} {header : Option String} {now : Instant}
      {settlement : Settlement} {next : Store}
      (denoted : ∀ document, body = some document → document.Denoted)
      (completed : store.completePush sent body header now = .ok (settlement, next)) :
      TextualStep store next
  | conceded {sent : Operation} {body : Option Document} {now : Instant}
      {settlement : Settlement} {next : Store}
      (denoted : ∀ document, body = some document → document.Denoted)
      (settled : store.settleWithServer sent body now = .ok (settlement, next)) :
      TextualStep store next
  | pulled {table tokenKey : String} {row : Document} {outcome : RowOutcome} {next : Store}
      (denoted : row.Denoted)
      (applied : store.applyRemoteRow table row tokenKey = .ok (outcome, next)) :
      TextualStep store next

/-- The stores that such calls (`TextualStep`) lead to from the empty one. -/
inductive Textual : Store → Prop where
  | empty : Textual empty
  | step {store next : Store} (earlier : Textual store) (call : TextualStep store next) :
      Textual next

/-- Such a call leaves the copies legible. -/
theorem TextualStep.legible (call : TextualStep store next) (legible : store.Legible) :
    next.Legible := by
  cases call with
  | keeping call fewer => exact legible.withholds fewer
  | edited recorded =>
    obtain ⟨queued, enqueues, writes⟩ := recordLocalMutation_eq_ok recorded
    refine writes.legible fun key copy found => legible key copy ?_
    rwa [entity?, enqueues.entities] at found
  | pushed denoted completed =>
    exact (completesPush_of_completePush completed).legible legible denoted
  | conceded denoted settled =>
    obtain ⟨document, metadata, described, settles⟩ := settlesWithServer_of_settleWithServer settled
    obtain ⟨given, -⟩ := conflictingEntity_eq_ok.mp described
    exact settles.legible legible (denoted document given)
  | pulled denoted applied =>
    obtain ⟨metadata, usable, known⟩ := bind_eq_ok.mp applied
    exact legible.of_applyKnownRow denoted (metadataOf_eq_ok.mp usable) known

/-- What has come as texts can be read again: a `Textual` store is `Legible`. -/
theorem Textual.legible (textual : Textual store) : store.Legible := by
  induction textual with
  | empty => exact .empty
  | step earlier call inductionHypothesis => exact call.legible inductionHypothesis

/-- Edits come as texts. -/
theorem Legible.editAll (legible : store.Legible) (edits : List Edit) (now : Instant) :
    (store.editAll now edits).2.Legible := by
  refine editAll_induction (motive := Legible) legible ?_
  intro edit _ mutation _ before outcome after kept recorded
  exact TextualStep.legible (.edited recorded) kept

end Store

end OfflineSync
