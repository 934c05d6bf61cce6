import OfflineSync.Proofs.Document.PrintedForm
import OfflineSync.Proofs.Entity.Metadata
import OfflineSync.Proofs.Store.Reachable

/-!
# Local copies are what was written

Whatever a call does, it changes the local copies by placing documents under the identities that
they carry and by selecting copies by their keys, as `Rewrites` says. So each copy `Prints` a
document, stored under the document's identity, with the columns that the document had when it was
written; and as the metadata of a document is a matter of its text (`ofDocument_congr`), the columns
say what the text says, `EntityRow.Truthful`.
-/

namespace OfflineSync

/-! ### Metadata is a matter of the text -/

namespace EntityMetadata

variable {left right : Document}

/-- A number is read by `textOrNumber?` as what is written of it. -/
theorem textOrNumber?_congr (alike : Document.Alike left right) :
    textOrNumber? left = textOrNumber? right := by
  cases alike with
  | same | array | object => rfl
  | number written => exact congrArg (some ∘ String.ofList) written

theorem idOf_congr (same : left.chars = right.chars) : idOf left = idOf right := by
  unfold idOf
  generalize left.field? idField = found, right.field? idField = other,
    Document.alike_field? same idField = alike
  cases alike with
  | none => rfl
  | some alike =>
    cases alike with
    | same | array | object => rfl
    | number written => simp only [textOrNumber?_congr (.number written)]

theorem updatedAtOf_congr (same : left.chars = right.chars) : updatedAtOf left = updatedAtOf right := by
  unfold updatedAtOf
  generalize left.field? updatedAtField = found, right.field? updatedAtField = other,
    Document.alike_field? same updatedAtField = alike
  cases alike with
  | none => rfl
  | some alike => cases alike <;> rfl

theorem versionOf_congr (same : left.chars = right.chars) : versionOf left = versionOf right := by
  unfold versionOf
  generalize left.field? versionField = found, right.field? versionField = other,
    Document.alike_field? same versionField = alike
  cases alike with
  | none => rfl
  | some alike => exact textOrNumber?_congr alike

theorem isTombstone_congr (same : left.chars = right.chars) : isTombstone left = isTombstone right := by
  unfold isTombstone
  generalize left.field? deletedField = found, right.field? deletedField = other,
    Document.alike_field? same deletedField = alike
  cases alike with
  | none => rfl
  | some alike => cases alike <;> rfl

/-- Documents of one text have the same metadata, or the same reason to have none. -/
theorem ofDocument_congr (same : left.chars = right.chars) : ofDocument left = ofDocument right := by
  have object : left.isObject = right.isObject := by
    cases Document.alike_of_chars same <;> rfl
  unfold ofDocument
  rw [object, idOf_congr same, updatedAtOf_congr same, versionOf_congr same, isTombstone_congr same]

end EntityMetadata

/-! ### Rows -/

/-- Whether a row is the text of a document with an identity, with the columns of the
document. -/
def EntityRow.Prints (row : EntityRow) (id : String) : Prop :=
  ∃ document metadata, EntityMetadata.ofDocument document = .ok metadata ∧ metadata.id = id ∧
    row = .ofDocument document metadata

/-- Whether the text of a row is read by `Document.read` as a document that has this text. -/
def EntityRow.ReadsBack (row : EntityRow) : Prop :=
  ∃ document, Document.read row.text = some document ∧ document.render = row.text

/-- Whether the text of a row is an entity with an identity, and the columns say of it
what it says of itself. -/
def EntityRow.Truthful (row : EntityRow) (id : String) : Prop :=
  ∃ document metadata, Document.read row.text = some document ∧ document.isObject ∧
    EntityMetadata.ofDocument document = .ok metadata ∧ metadata.id = id ∧
    metadata.version = row.version ∧ metadata.updatedMicros = row.updatedMicros

/-- A row that prints a document is `Truthful` as far as the reader gives its text back
(`ReadsBack`). -/
theorem EntityRow.Prints.truthful {row : EntityRow} {id : String} (prints : row.Prints id)
    (back : row.ReadsBack) : row.Truthful id := by
  obtain ⟨document, metadata, usable, named, rfl⟩ := prints
  obtain ⟨parsed, read, written⟩ := back
  have same : parsed.chars = document.chars := String.ofList_injective written
  have known : EntityMetadata.ofDocument parsed = .ok metadata :=
    (EntityMetadata.ofDocument_congr same).trans usable
  obtain ⟨object, -⟩ := EntityMetadata.ofDocument_eq_ok.mp known
  exact ⟨parsed, metadata, read, object, known, named, rfl, rfl⟩

/-! ### Writes -/

/-- Keys are in order by their two parts, one after the other. -/
instance : Std.TransOrd EntityKey :=
  inferInstanceAs (Std.TransCmp
    (compareLex (compareOn EntityKey.table) (compareOn EntityKey.id)))

instance : Std.LawfulEqOrd EntityKey where
  eq_of_compare {left right} same := by
    obtain ⟨tables, ids⟩ := Ordering.then_eq_eq.mp same
    cases left
    cases right
    cases Std.LawfulEqOrd.eq_of_compare tables
    cases Std.LawfulEqOrd.eq_of_compare ids
    rfl

/-- The lists of local copies that writes make of one: documents are placed under the
identities that they carry, and copies are selected by their keys. -/
inductive Rewrites (before : KeyedList EntityKey EntityRow) :
    KeyedList EntityKey EntityRow → Prop where
  | refl : Rewrites before before
  | placed {after : KeyedList EntityKey EntityRow} (earlier : Rewrites before after)
      (table : String) {document : Document} {metadata : EntityMetadata}
      (usable : EntityMetadata.ofDocument document = .ok metadata) :
      Rewrites before
        (KeyedList.insert ⟨table, metadata.id⟩ (.ofDocument document metadata) after)
  | selected {after : KeyedList EntityKey EntityRow} (earlier : Rewrites before after)
      (keeps : EntityKey × EntityRow → Bool) : Rewrites before (after.filter keeps)

namespace Rewrites

variable {before middle after : KeyedList EntityKey EntityRow}

theorem trans (first : Rewrites before middle) (second : Rewrites middle after) :
    Rewrites before after := by
  induction second with
  | refl => exact first
  | placed earlier table usable inductionHypothesis => exact inductionHypothesis.placed table usable
  | selected earlier keeps inductionHypothesis => exact inductionHypothesis.selected keeps

/-- Each copy that writes leave was there, or prints the document that was placed. -/
theorem mem (writes : Rewrites before after) {entry : EntityKey × EntityRow}
    (held : entry ∈ after) : entry ∈ before ∨ entry.2.Prints entry.1.id := by
  induction writes with
  | refl => exact .inl held
  | placed earlier table usable inductionHypothesis =>
    rcases KeyedList.mem_insert held with rfl | old
    · exact .inr ⟨_, _, usable, rfl, rfl⟩
    · exact inductionHypothesis old
  | selected earlier keeps inductionHypothesis =>
    exact inductionHypothesis (List.mem_filter.mp held).1

/-- Writes keep the copies in the order of their keys (`KeyedList.Ascending`). -/
theorem ascending (writes : Rewrites before after) (ordered : KeyedList.Ascending before) :
    KeyedList.Ascending after := by
  induction writes with
  | refl => exact ordered
  | placed earlier table usable inductionHypothesis => exact inductionHypothesis.insert _ _
  | selected earlier keeps inductionHypothesis => exact List.Pairwise.filter _ inductionHypothesis

end Rewrites

namespace Store

section Calls

variable {store next : Store} {table tokenKey : String} {document row : Document}
  {metadata : EntityMetadata} {mutation : Mutation} {sent : Operation} {body : Option Document}
  {version : Option String} {key : EntityKey} {now : Instant} {settlement : Settlement}

theorem rewrites_withCopy (usable : EntityMetadata.ofDocument document = .ok metadata) :
    Rewrites store.entities (store.withCopy table document metadata).entities :=
  Rewrites.refl.placed table usable

theorem rewrites_removeEntity : Rewrites store.entities (store.removeEntity key).entities :=
  Rewrites.refl.selected _

theorem rewrites_putEntity (written : store.putEntity table document = .ok next) :
    Rewrites store.entities next.entities := by
  obtain ⟨metadata, usable, rfl⟩ := putEntity_eq_ok.mp written
  exact rewrites_withCopy usable

theorem rewrites_mergeEntity (written : store.mergeEntity table document = .ok next) :
    Rewrites store.entities next.entities := by
  obtain ⟨metadata, -, ⟨present, -, placed⟩ | ⟨-, placed⟩⟩ := mergeEntity_eq_ok.mp written
  · exact rewrites_putEntity placed
  · exact rewrites_putEntity placed

theorem rewrites_setEntityVersion (written : store.setEntityVersion key version = .ok next) :
    Rewrites store.entities next.entities := by
  obtain ⟨present, -, placed⟩ | ⟨-, rfl⟩ := setEntityVersion_eq_ok.mp written
  · exact rewrites_putEntity placed
  · exact .refl

theorem rewrites_adoptAnswer (adopted : store.adoptAnswer sent body version = .ok next) :
    Rewrites store.entities next.entities := by
  unfold adoptAnswer at adopted
  split at adopted
  · cases adopted
    exact rewrites_removeEntity
  · exact rewrites_mergeEntity adopted
  · exact rewrites_mergeEntity adopted
  · exact rewrites_setEntityVersion adopted
  · cases adopted
    exact .refl

theorem rewrites_rebase {operation : Operation} {kind : OperationKind}
    (rebased : store.rebase operation kind version = .ok next) :
    Rewrites store.entities next.entities := by
  rcases rebase_eq_ok.mp rebased with ⟨-, rfl⟩ | ⟨-, written⟩
  · exact .refl
  · have writes := rewrites_setEntityVersion written
    exact writes

theorem WritesEdit.rewrites (writes : store.WritesEdit mutation next) :
    Rewrites store.entities next.entities := by
  cases writes with
  | removed kind => exact rewrites_removeEntity
  | added kind read usable free => exact rewrites_withCopy usable
  | replaced kind read usable => exact rewrites_withCopy usable

theorem CompletesPush.rewrites
    (completes : store.CompletesPush sent body version now settlement next) :
    Rewrites store.entities next.entities := by
  cases completes with
  | rebased found newer rebased => exact rewrites_rebase rebased
  | settled found same adopts =>
    have writes := rewrites_adoptAnswer adopts
    exact writes
  | vanished gone keeps => exact .refl
  | recreated gone creates found rebased => exact rewrites_rebase rebased
  | undone gone creates free => exact .refl

theorem SettlesWithServer.rewrites
    (settles : store.SettlesWithServer sent document metadata now settlement next) :
    Rewrites store.entities next.entities := by
  cases settles with
  | rebased found newer rebased => exact rewrites_rebase rebased
  | removed found same deleted => exact rewrites_removeEntity
  | adopted found same live merges =>
    have writes := rewrites_mergeEntity merges
    exact writes
  | vanished gone => exact .refl

theorem PlacesRow.rewrites {outcome : RowOutcome}
    (places : store.PlacesRow table row metadata outcome next) :
    Rewrites store.entities next.entities := by
  cases places with
  | skipped removes absent => exact .refl
  | deleted removes found => exact rewrites_removeEntity
  | inserted keeps absent written => exact rewrites_putEntity written
  | replaced keeps found denotes written => exact rewrites_putEntity written

/-- Every call `Rewrites` the local copies by placing documents and selecting copies. -/
theorem Step.rewrites (call : Step store next) : Rewrites store.entities next.entities := by
  cases call with
  | edited recorded =>
    obtain ⟨queued, enqueues, writes⟩ := recordLocalMutation_eq_ok recorded
    exact enqueues.entities ▸ writes.rewrites
  | enqueued queued => exact (enqueues_of_enqueue queued).entities ▸ .refl
  | pushed completed => exact (completesPush_of_completePush completed).rewrites
  | conceded settled =>
    obtain ⟨document, metadata, -, settles⟩ := settlesWithServer_of_settleWithServer settled
    exact settles.rewrites
  | failed noted => cases recordsFailure_of_recordFailure noted <;> exact .refl
  | pulled applied =>
    obtain ⟨metadata, usable, known⟩ := bind_eq_ok.mp applied
    obtain ⟨placed, places, rfl⟩ := placesRow_of_applyKnownRow (metadataOf_eq_ok.mp usable) known
    simpa using places.rewrites
  | cleared => exact .refl
  | purged table discard =>
    have selected : Rewrites store.entities (store.removeTable table).entities :=
      Rewrites.refl.selected _
    cases discard <;> exact selected
  | advanced tokenKey instant => simpa using .refl
  | reset tokenKey => exact .refl
  | resetTable table => exact .refl

/-- Every copy of a reachable store `Prints` a document with its identity. -/
theorem Reachable.prints (reachable : Reachable store) {entry : EntityKey × EntityRow}
    (held : entry ∈ store.entities) : entry.2.Prints entry.1.id := by
  induction reachable with
  | empty => cases held
  | step earlier call inductionHypothesis =>
    rcases call.rewrites.mem held with old | prints
    · exact inductionHypothesis old
    · exact prints

/-- The copies of a reachable store are in the order of their keys. -/
theorem Reachable.ascending (reachable : Reachable store) : KeyedList.Ascending store.entities := by
  induction reachable with
  | empty => exact List.Pairwise.nil
  | step earlier call inductionHypothesis => exact call.rewrites.ascending inductionHypothesis

/-- The rows of a page, by `applyPage`, are calls one after the other. -/
theorem Reachable.applyPage (reachable : Reachable store) (table tokenKey : String)
    (rows : List Document) : Reachable (store.applyPage table tokenKey rows).2 := by
  refine applyPage_induction (motive := fun next _ => Reachable next) reachable ?_ ?_
  · exact fun _ _ _ _ _ _ reached => reached
  · intro row _ metadata usable before outcome after applied done reached
    have called : before.applyRemoteRow table row tokenKey = .ok (outcome, after) :=
      bind_eq_ok.mpr ⟨metadata, metadataOf_eq_ok.mpr usable, applied⟩
    exact reached.step (.pulled called)

end Calls

/-- The stored document is the source of truth: whatever calls led to a store, a local copy
whose text the reader gives back (`ReadsBack`) is `Truthful`. Its text is an entity with the
copy's identity, and the columns have the version and the moment of change that the entity
carries. -/
theorem stored_document_is_truth {store : Store} (reachable : Reachable store) {key : EntityKey}
    {row : EntityRow} (held : (key, row) ∈ store.entities) (back : row.ReadsBack) :
    row.Truthful key.id :=
  (reachable.prints held).truthful back

namespace NumericIdentity

/-- An entity whose identity and version are numbers. -/
def document : Document :=
  .object [("id", .integer 7), ("updatedAt", .text "2024-05-06T07:08:09Z"), ("version", .integer 2)]

/-- The creation of the entity. -/
def creation : Mutation where
  kind := .add
  table := "todo"
  itemId := "7"
  item := document.render
  before := none
  entityVersion := none

/-- The store in which the entity is created. -/
def created : Store where
  entities := [(⟨"todo", "7"⟩, ⟨document.render, some "2", some 1714979289000000⟩)]
  queue := [.ofMutation creation 1 ⟨0, 0⟩]
  watermarks := []
  lastSequence := 1

/-- A row about the entity that is silent on when it changed. -/
def pulled : Document :=
  .object [("id", .integer 7), ("title", .text "t"), ("version", .integer 3)]

/-- The copy that the row is merged into. -/
def row : EntityRow where
  text := (document.overlay pulled).render
  version := some "3"
  updatedMicros := some 1714979289000000

def merged : Store :=
  { created with entities := [(⟨"todo", "7"⟩, row)] }

theorem reachable_merged : Reachable merged := by
  have recorded : empty.recordLocalMutation creation ⟨0, 0⟩ =
      .ok (.created (.ofMutation creation 1 ⟨0, 0⟩), created) := by
    decide +kernel
  have applied : created.applyRemoteRow "todo" pulled "dt.todo.all" = .ok (.replaced, merged) := by
    decide +kernel
  exact .step (.step .empty (.edited recorded)) (.pulled applied)

theorem readsBack_row : row.ReadsBack :=
  ⟨document.overlay pulled, by decide +kernel, rfl⟩

end NumericIdentity

/-- A merged copy with numbers for its identity and its version is truthful. -/
theorem stored_document_is_truth_numeric :
    Reachable NumericIdentity.merged ∧ NumericIdentity.row.ReadsBack ∧
      NumericIdentity.row.Truthful "7" := by
  have held : ((⟨"todo", "7"⟩, NumericIdentity.row) : EntityKey × EntityRow) ∈
      NumericIdentity.merged.entities := List.mem_singleton_self _
  exact ⟨NumericIdentity.reachable_merged, NumericIdentity.readsBack_row,
    stored_document_is_truth NumericIdentity.reachable_merged held NumericIdentity.readsBack_row⟩

end Store

end OfflineSync
