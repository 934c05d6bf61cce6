import OfflineSync.Proofs.Store.Mirroring
import OfflineSync.Proofs.Store.Results

/-!
# What pulled rows leave

A pulled row removes the local copy of its entity, or writes it anew from its own fields and from
those that the copy had. So each field of a copy that rows have reached is told by the rows alone
and by what was read of the copy before the first of them: `FieldState` keeps account of one field,
and `RemoteRow.touched` of what rows do to it. The rows that a remote offers are dated, and the
watermark rises to the latest of those applied, `tokenAfter`.
-/

namespace OfflineSync

/-- A row that a remote offers: an entity with its moment of last change. -/
structure RemoteRow where
  document : Document
  metadata : EntityMetadata
  changed : Instant
  readable : document.Readable Document.depthLimit
  usable : EntityMetadata.ofDocument document = .ok metadata
  dated : metadata.updatedAt = some changed

/-- A field of a local copy that rows may reach: as it was read before any of them, or
as the last of them has written it. -/
inductive FieldState where
  | untouched (reading : Option Document)
  | written (value : Option Document)

/-- What is read of a field. -/
def FieldState.reading : FieldState → Option Document
  | .untouched reading => reading
  | .written value => value.map Document.reprinted

namespace RemoteRow

/-- The moment of last change, as watermarks keep it. -/
def micros (row : RemoteRow) : Int := row.changed.toMicros

/-- A watermark after a row was applied; `tokenAfter` is that after some rows. -/
def raise (row : RemoteRow) (token : Option Int) : Option Int :=
  some ((token.map fun present => max present row.micros).getD row.micros)

/-- A watermark after rows were applied, each by `raise`. -/
def tokenAfter (rows : List RemoteRow) (token : Option Int) : Option Int :=
  rows.foldl (fun token row => row.raise token) token

/-- A field of the copy of an entity after a row was applied. -/
def touch (id name : String) (row : RemoteRow) (state : FieldState) : FieldState :=
  if row.metadata.id = id then
    .written (if row.metadata.deleted then none else (row.document.field? name).or state.reading)
  else state

/-- A field of the copy of an entity after rows were applied, each by `touch`. -/
def touched (id name : String) (rows : List RemoteRow) (state : FieldState) : FieldState :=
  rows.foldl (fun state row => row.touch id name state) state

/-- A row is an object that names its entity. -/
theorem names (row : RemoteRow) :
    row.document.isObject ∧ EntityMetadata.idOf row.document = .ok row.metadata.id := by
  obtain ⟨object, names, -⟩ := EntityMetadata.ofDocument_eq_ok.mp row.usable
  exact ⟨object, names⟩

variable {first second : List RemoteRow} {id name : String}

/-- Rows are applied in turn. -/
@[simp] theorem touched_append (state : FieldState) :
    touched id name (first ++ second) state = touched id name second (touched id name first state) :=
  List.foldl_append

@[simp] theorem tokenAfter_append (token : Option Int) :
    tokenAfter (first ++ second) token = tokenAfter second (tokenAfter first token) :=
  List.foldl_append

end RemoteRow

namespace Store

/-- A field of the document of a local copy, as it is read. -/
def readField? (store : Store) (key : EntityKey) (name : String) : Option Document :=
  (store.document? key).bind (·.field? name)

/-- Applies rows in order. -/
def applyRows (table tokenKey : String) (store : Store) (rows : List RemoteRow) :
    Except StoreError Store :=
  rows.foldlM (fun store row =>
    (store.applyKnownRow table row.document row.metadata tokenKey).map Prod.snd) store

/-- What a row does to the local copies: it removes that of its entity, or is laid over
what is read of it, and the others stay. -/
structure TakesRow (store : Store) (table : String) (row : Document) (metadata : EntityMetadata)
    (next : Store) : Prop where
  others : ∀ key, key ≠ ⟨table, metadata.id⟩ → next.entity? key = store.entity? key
  removes : metadata.deleted → next.entity? ⟨table, metadata.id⟩ = none
  writes : ¬ metadata.deleted → ∃ copy, next.entity? ⟨table, metadata.id⟩ = some copy ∧
    copy.IsCopy (((store.document? ⟨table, metadata.id⟩).getD .null).overlay row) metadata.id

/-- What applying a row does. -/
structure AppliesRow (table tokenKey : String) (store : Store) (row : RemoteRow) (next : Store) :
    Prop where
  token : next.watermark? tokenKey = row.raise (store.watermark? tokenKey)
  others : ∀ key, key ≠ ⟨table, row.metadata.id⟩ → next.entity? key = store.entity? key
  removes : row.metadata.deleted → next.entity? ⟨table, row.metadata.id⟩ = none
  writes : ¬ row.metadata.deleted → ∃ copy document,
    next.entity? ⟨table, row.metadata.id⟩ = some copy ∧ copy.IsCopy document row.metadata.id ∧
      ∀ name, document.field? name = (row.document.field? name).or
        (store.readField? ⟨table, row.metadata.id⟩ name)

variable {table tokenKey : String} {store next start : Store} {row : RemoteRow}
  {document : Document} {metadata : EntityMetadata}
  {rows : List RemoteRow} {key : EntityKey} {fields : String → FieldState}

/-- The watermark rises (`raise`) to the moment of last change of a row. -/
theorem watermark?_noteChange (row : RemoteRow) :
    (store.noteChange tokenKey row.metadata).watermark? tokenKey =
      row.raise (store.watermark? tokenKey) := by
  unfold noteChange
  rw [row.dated]
  exact (store.watermark?_advanceWatermark tokenKey tokenKey row.changed).trans (if_pos rfl)

/-- A document that can be read back is the copy of the entity that it names. -/
theorem isCopy_of_putEntity {document : Document} {id : String}
    (names : EntityMetadata.idOf document = .ok id)
    (readable : document.Readable Document.depthLimit)
    (written : store.putEntity table document = .ok next) :
    (∃ copy, next.entity? ⟨table, id⟩ = some copy ∧ copy.IsCopy document id) ∧
      ∀ key, key ≠ ⟨table, id⟩ → next.entity? key = store.entity? key := by
  obtain ⟨metadata, usable, rfl⟩ := putEntity_eq_ok.mp written
  obtain ⟨-, named, -⟩ := EntityMetadata.ofDocument_eq_ok.mp usable
  have same : metadata.id = id := Except.ok.inj (named.symm.trans names)
  constructor
  · exact ⟨_, by simp [same], readable, metadata, usable, same, rfl⟩
  · intro key other
    simp [same, other.symm]

/-- A row is written by `putEntity` over what is read of the copy of its entity. -/
theorem takesRow_of_putEntity {older : Document} (keeps : metadata.deleted = false)
    (names : EntityMetadata.idOf document = .ok metadata.id)
    (denoted : document.Readable Document.depthLimit)
    (read : (store.document? ⟨table, metadata.id⟩).getD .null = older)
    (readable : older.Readable Document.depthLimit)
    (written : store.putEntity table (older.overlay document) = .ok next) :
    TakesRow store table document metadata next := by
  subst read
  obtain ⟨copied, others⟩ := isCopy_of_putEntity
    (EntityMetadata.idOf_overlay names denoted.ascends) (readable.overlay denoted) written
  exact ⟨others, fun removed => absurd (keeps.symm.trans removed) Bool.false_ne_true, fun _ => copied⟩

/-- A row that is placed (`PlacesRow`) removes the copy of its entity or is laid over it. -/
theorem PlacesRow.takesRow {outcome : RowOutcome}
    (places : store.PlacesRow table document metadata outcome next)
    (denoted : document.Readable Document.depthLimit)
    (usable : EntityMetadata.ofDocument document = .ok metadata) :
    TakesRow store table document metadata next := by
  obtain ⟨-, names, -⟩ := EntityMetadata.ofDocument_eq_ok.mp usable
  cases places with
  | skipped removes absent =>
    exact ⟨fun _ _ => rfl, fun _ => absent, fun live => absurd removes live⟩
  | deleted removes found =>
    refine ⟨fun key other => ?_, fun _ => ?_, fun live => absurd removes live⟩
    · simp [other.symm]
    · simp
  | inserted keeps absent written =>
    refine takesRow_of_putEntity keeps names denoted ?_ .null written
    rw [document?_eq_none absent]
    rfl
  | @replaced copy older _ keeps found denotes written =>
    refine takesRow_of_putEntity keeps names denoted ?_ (Document.readable_of_read denotes) written
    rw [document?_of_read found denotes]
    rfl

/-- A moment of change that is noted has no part in the local copies. -/
theorem TakesRow.noteChange (takes : TakesRow store table document metadata next) :
    TakesRow store table document metadata (next.noteChange tokenKey metadata) := by
  refine ⟨fun key other => ?_, fun removed => ?_, fun live => ?_⟩
  · simpa using takes.others key other
  · simpa using takes.removes removed
  · simpa using takes.writes live

theorem takesRow_of_applyKnownRow {outcome : RowOutcome}
    (denoted : document.Readable Document.depthLimit)
    (usable : EntityMetadata.ofDocument document = .ok metadata)
    (applied : store.applyKnownRow table document metadata tokenKey = .ok (outcome, next)) :
    TakesRow store table document metadata next := by
  obtain ⟨placed, places, rfl⟩ := placesRow_of_applyKnownRow usable applied
  exact (places.takesRow denoted usable).noteChange

/-- A row is applied by `applyKnownRow` to the copy of its entity, and the watermark rises. -/
theorem appliesRow_of_applyKnownRow {outcome : RowOutcome}
    (applied : store.applyKnownRow table row.document row.metadata tokenKey = .ok (outcome, next)) :
    AppliesRow table tokenKey store row next := by
  have takes := takesRow_of_applyKnownRow row.readable row.usable applied
  refine ⟨?_, takes.others, takes.removes, fun live => ?_⟩
  · obtain ⟨placed, places, rfl⟩ := placesRow_of_applyKnownRow row.usable applied
    rw [watermark?_noteChange, watermark?, places.differsInCopies.watermarks, watermark?]
  · obtain ⟨copy, found, isCopy⟩ := takes.writes live
    refine ⟨copy, _, found, isCopy, fun name => ?_⟩
    rw [Document.field?_overlay row.names.1 row.readable.ascends, readField?]
    cases store.document? ⟨table, row.metadata.id⟩ <;> rfl

/-! ### Rows in turn -/

/-- The first of some rows is applied before the others. -/
theorem applyRows_cons_eq_ok :
    applyRows table tokenKey store (row :: rows) = .ok next ↔
      ∃ outcome middle,
        store.applyKnownRow table row.document row.metadata tokenKey = .ok (outcome, middle) ∧
          applyRows table tokenKey middle rows = .ok next := by
  unfold applyRows
  rw [List.foldlM_cons]
  simp only [bind_eq_ok, map_eq_ok]
  constructor
  · rintro ⟨_, ⟨⟨outcome, middle⟩, applied, rfl⟩, rest⟩
    exact ⟨outcome, middle, applied, rest⟩
  · rintro ⟨outcome, middle, applied, rest⟩
    exact ⟨middle, ⟨(outcome, middle), applied, rfl⟩, rest⟩

/-- Rows that follow each other are applied as one list. -/
theorem applyRows_append {middle : Store} {first second : List RemoteRow}
    (applied : applyRows table tokenKey store first = .ok middle) :
    applyRows table tokenKey store (first ++ second) = applyRows table tokenKey middle second := by
  unfold applyRows at applied ⊢
  rw [List.foldlM_append, applied]
  rfl

/-- A page applies the first of its rows by `applyRows`, and all of them where none fails. -/
theorem applyRows_of_applyPage (table tokenKey : String) (store : Store) (rows : List RemoteRow) :
    ∃ applied, applied <+: rows ∧
      applyRows table tokenKey store applied =
        .ok (store.applyPage table tokenKey (rows.map RemoteRow.document)).2 ∧
      ∀ counts, (store.applyPage table tokenKey (rows.map RemoteRow.document)).1 = .ok counts →
        applied = rows := by
  induction rows generalizing store with
  | nil => exact ⟨[], List.prefix_refl _, rfl, fun _ _ => rfl⟩
  | cons row rest inductionHypothesis =>
    rw [List.map_cons, applyPage, row.usable]
    dsimp only
    cases first : store.applyKnownRow table row.document row.metadata tokenKey with
    | error fault => exact ⟨[], List.nil_prefix, rfl, nofun⟩
    | ok result =>
      obtain ⟨outcome, middle⟩ := result
      obtain ⟨applied, within, others, complete⟩ := inductionHypothesis middle
      refine ⟨row :: applied, List.prefix_cons_inj row |>.mpr within,
        applyRows_cons_eq_ok.mpr ⟨outcome, middle, first, others⟩, fun counts counted => ?_⟩
      obtain ⟨later, counted, -⟩ := map_eq_ok.mp counted
      rw [complete later counted]

/-- The watermark rises from row to row. -/
theorem watermark?_applyRows (applied : applyRows table tokenKey store rows = .ok next) :
    next.watermark? tokenKey = RemoteRow.tokenAfter rows (store.watermark? tokenKey) := by
  induction rows generalizing store with
  | nil =>
    cases applied
    rfl
  | cons row rest inductionHypothesis =>
    obtain ⟨outcome, middle, first, others⟩ := applyRows_cons_eq_ok.mp applied
    rw [inductionHypothesis others, (appliesRow_of_applyKnownRow first).token]
    rfl

/-- Rows leave the copies of other tables as they were. -/
theorem entity?_applyRows_of_other (applied : applyRows table tokenKey store rows = .ok next)
    (other : key.table ≠ table) : next.entity? key = store.entity? key := by
  induction rows generalizing store with
  | nil =>
    cases applied
    rfl
  | cons row rest inductionHypothesis =>
    obtain ⟨outcome, middle, first, others⟩ := applyRows_cons_eq_ok.mp applied
    rw [inductionHypothesis others]
    refine (appliesRow_of_applyKnownRow first).others key ?_
    rintro rfl
    exact other rfl

/-- What rows have left of a local copy, where its fields have come to some states
(`FieldState`). -/
inductive Shows (start next : Store) (key : EntityKey) (fields : String → FieldState) : Prop where
  | untouched (same : next.entity? key = start.entity? key)
      (states : ∀ name, fields name = .untouched (start.readField? key name)) :
      Shows start next key fields
  | removed (absent : next.entity? key = none) (states : ∀ name, fields name = .written none) :
      Shows start next key fields
  | written {copy : EntityRow} {document : Document} (found : next.entity? key = some copy)
      (isCopy : copy.IsCopy document key.id)
      (states : ∀ name, fields name = .written (document.field? name)) :
      Shows start next key fields

namespace Shows

/-- The states of the fields tell what is read of them. -/
theorem reading (shows : Shows start store key fields) (name : String) :
    (fields name).reading = store.readField? key name := by
  cases shows with
  | untouched same states =>
    rw [states, FieldState.reading, readField?, readField?, document?, document?, same]
  | removed absent states =>
    rw [states, readField?, document?_eq_none absent]
    rfl
  | written found isCopy states =>
    rw [states, readField?, document?_of_read found isCopy.read_text, Option.bind_some,
      Document.field?_reprinted]
    rfl

variable {id : String}

/-- A row changes the states of the fields of its entity. -/
theorem appliesRow (shows : Shows start store ⟨table, id⟩ fields)
    (applies : AppliesRow table tokenKey store row next) :
    Shows start next ⟨table, id⟩ fun name => row.touch id name (fields name) := by
  by_cases same : row.metadata.id = id
  · subst same
    by_cases deleted : row.metadata.deleted
    · refine .removed (applies.removes deleted) fun name => ?_
      rw [RemoteRow.touch, if_pos rfl, if_pos deleted]
    · obtain ⟨copy, document, found, isCopy, written⟩ := applies.writes deleted
      refine .written found isCopy fun name => ?_
      rw [RemoteRow.touch, if_pos rfl, if_neg deleted, shows.reading, written]
  · have kept (name : String) : row.touch id name (fields name) = fields name := if_neg same
    have other : (⟨table, id⟩ : EntityKey) ≠ ⟨table, row.metadata.id⟩ := by
      intro equal
      exact same (congrArg EntityKey.id equal).symm
    have unchanged := applies.others ⟨table, id⟩ other
    cases shows with
    | untouched held states =>
      exact .untouched (unchanged.trans held) fun name => (kept name).trans (states name)
    | removed absent states =>
      exact .removed (unchanged.trans absent) fun name => (kept name).trans (states name)
    | written found isCopy states =>
      exact .written (unchanged.trans found) isCopy fun name => (kept name).trans (states name)

/-- Rows change the states of the fields in turn. -/
theorem applyRows (shows : Shows start store ⟨table, id⟩ fields)
    (applied : applyRows table tokenKey store rows = .ok next) :
    Shows start next ⟨table, id⟩ fun name => RemoteRow.touched id name rows (fields name) := by
  induction rows generalizing store fields with
  | nil =>
    cases applied
    exact shows
  | cons row rest inductionHypothesis =>
    obtain ⟨outcome, middle, first, others⟩ := applyRows_cons_eq_ok.mp applied
    exact inductionHypothesis (shows.appliesRow (appliesRow_of_applyKnownRow first)) others

end Shows

/-- What rows leave of a local copy (`Shows`) is told by what was read of it before. -/
theorem shows_applyRows (applied : applyRows table tokenKey start rows = .ok next) (id : String) :
    Shows start next ⟨table, id⟩ fun name =>
      RemoteRow.touched id name rows (.untouched (start.readField? ⟨table, id⟩ name)) :=
  Shows.applyRows (.untouched rfl fun _ => rfl) applied

end Store

end OfflineSync
