import OfflineSync.Proofs.Entity.Metadata
import OfflineSync.Proofs.Store.Descent
import OfflineSync.Proofs.Store.Results

/-!
# What a result reaches

A result is about one operation, and touches no operation of another entity and no token:
`SameBeside` holds of the store before and after it. It writes the local copy of one entity at most
(`ReachesOne`). That is the entity sent, unless the result `Strays`: the answer describes another
entity, or the local copy is read back as another.

A call of the store leaves what is beside a key by `CompletesPush.sameBeside` and its siblings, and
writes one copy by `WritesOnly.putEntity` and `WritesOnly.mergeEntity`; `confined_of_receive` joins
the two for every `Outcome`.
-/

namespace OfflineSync.Store

/-- The queued operations of all entities but one. -/
def rowsBeside (store : Store) (key : EntityKey) : List Operation :=
  store.queue.filter fun operation => !operation.isFor key.table key.id

/-- Whether two stores have the same tokens, and the same operations of all entities but one,
by `rowsBeside`. -/
structure SameBeside (key : EntityKey) (before after : Store) : Prop where
  watermarks : after.watermarks = before.watermarks
  rows : after.rowsBeside key = before.rowsBeside key

/-- Whether the copies of all entities but one stay as they were. -/
def WritesOnly (key : EntityKey) (before after : Store) : Prop :=
  ∀ other, other ≠ key → after.entity? other = before.entity? other

/-- Whether the operations under the identity sent are of the entity sent, so that a result
cannot touch another one under it. -/
def FindsOwn (store : Store) (sent : Operation) : Prop :=
  ∀ row ∈ store.queue, row.id = sent.id → row.isFor sent.table sent.itemId

/-- The key of the entity that an operation is of. -/
def keyOf (operation : Operation) : EntityKey := ⟨operation.table, operation.itemId⟩

/-- The entities other than the one sent whose copy a result may write. -/
inductive Strays (store : Store) (sent : Operation) : Outcome → EntityKey → Prop where
  /-- The operation is as it was sent and succeeds, with an answer that describes another
  entity. -/
  | body {current : Operation} {document : Document} {header : Option String} {id : String}
      (found : store.operation? sent.id = some current) (same : current.revision = sent.revision)
      (stays : sent.kind ≠ .delete) (names : EntityMetadata.idOf document = .ok id)
      (other : id ≠ sent.itemId) :
      Strays store sent (.accepted (some document) header) ⟨sent.table, id⟩
  /-- The copy of the entity sent is read back under another identity. -/
  | copy {outcome : Outcome} {document : Document} {id : String}
      (answers : ∀ status reason, outcome ≠ .refused status reason)
      (held : store.document? (keyOf sent) = some document)
      (names : EntityMetadata.idOf document = .ok id) (other : id ≠ sent.itemId) :
      Strays store sent outcome ⟨sent.table, id⟩

variable {store next before middle during after : Store} {sent operation present : Operation}
  {key : EntityKey} {now : Instant} {version : Option String} {document : Document}

/-! ### Operations and tokens -/

/-- An operation is for the entity that it is of, and for no other. -/
theorem isFor_iff_keyOf : operation.isFor key.table key.id ↔ keyOf operation = key := by
  rw [Operation.isFor_iff, keyOf]
  constructor
  · rintro ⟨table, itemId⟩
    rw [table, itemId]
  · rintro rfl
    exact ⟨rfl, rfl⟩

namespace SameBeside

theorem refl (store : Store) : SameBeside key store store := ⟨rfl, rfl⟩

theorem trans (first : SameBeside key before middle) (second : SameBeside key middle after) :
    SameBeside key before after where
  watermarks := second.watermarks.trans first.watermarks
  rows := second.rows.trans first.rows

theorem of_differs (differs : DiffersInCopies before after) : SameBeside key before after where
  watermarks := differs.watermarks
  rows := by rw [rowsBeside, differs.queue, rowsBeside]

/-- An operation of the entity is appended beside all others. -/
theorem appendOperation (belongs : operation.isFor key.table key.id) :
    SameBeside key store (store.appendOperation operation) where
  watermarks := rfl
  rows := by simp [rowsBeside, Store.appendOperation, List.filter_append, belongs]

/-- An operation of the entity is removed beside all others. -/
theorem removeOperation {id : String}
    (belongs : ∀ row ∈ store.queue, row.id = id → row.isFor key.table key.id) :
    SameBeside key store (store.removeOperation id) where
  watermarks := rfl
  rows := by
    unfold rowsBeside Store.removeOperation
    rw [List.filter_filter]
    refine List.filter_congr fun row queued => ?_
    by_cases named : row.id = id
    · simp [belongs row queued named]
    · simp [named]

/-- An operation of the entity is updated beside all others. -/
theorem updateOperation {id : String} {change : Operation → Operation}
    (belongs : ∀ row ∈ store.queue, row.id = id → row.isFor key.table key.id)
    (stays : ∀ row, (change row).isFor key.table key.id = row.isFor key.table key.id) :
    SameBeside key store (store.updateOperation id change) where
  watermarks := rfl
  rows := by
    unfold rowsBeside Store.updateOperation
    generalize store.queue = rows at belongs
    induction rows with
    | nil => rfl
    | cons row rest inductionHypothesis =>
      have others := inductionHypothesis fun row member => belongs row (List.mem_cons_of_mem _ member)
      by_cases named : row.id = id
      · have own := belongs row (List.mem_cons_self ..) named
        simpa [named, stays, own] using others
      · cases own : row.isFor key.table key.id <;> simpa [named, own] using others

/-- An operation of the entity is revised beside all others. -/
theorem replaceOperation
    (belongs : ∀ row ∈ store.queue, row.id = operation.id → row.isFor key.table key.id) :
    SameBeside key store (store.replaceOperation operation) :=
  updateOperation belongs fun _ => rfl

end SameBeside

/-- What is open of another entity stays open as it is. -/
theorem SameBeside.openOperation? {other : EntityKey} (beside : SameBeside key before after)
    (differs : other ≠ key) :
    after.openOperation? other.table other.id = before.openOperation? other.table other.id := by
  have among (store : Store) : store.openOperation? other.table other.id =
      (store.rowsBeside key).find? fun row => row.isFor other.table other.id && row.isOpen := by
    unfold Store.openOperation? rowsBeside
    rw [List.find?_filter]
    congr 1
    funext row
    by_cases belongs : row.isFor other.table other.id
    · have apart : row.isFor key.table key.id = false := by
        refine Bool.eq_false_iff.mpr fun same => differs ?_
        exact (isFor_iff_keyOf.mp belongs).symm.trans (isFor_iff_keyOf.mp same)
      simp [apart]
    · simp [belongs]
  rw [among, among, beside.rows]

/-- An edit that is queued reaches the operations of its own entity alone: `SameBeside` after
each case of `Enqueues`. -/
theorem Enqueues.sameBeside {mutation : Mutation} (enqueues : store.Enqueues mutation now next)
    (sound : store.QueueSound) : SameBeside ⟨mutation.table, mutation.itemId⟩ store next := by
  have own {present : Operation}
      (found : store.openOperation? mutation.table mutation.itemId = some present) :
      ∀ row ∈ store.queue, row.id = present.id → row.isFor mutation.table mutation.itemId := by
    intro row queued named
    obtain ⟨presentQueued, belongs, -⟩ := mem_of_openOperation? found
    cases sound.eq_of_id queued presentQueued named
    exact belongs
  cases enqueues with
  | created free => exact .appendOperation (Operation.isFor_iff.mpr ⟨rfl, rfl⟩)
  | merged found transition =>
    have belongs := own found
    exact .replaceOperation belongs
  | cancelled found creates deletes => exact .removeOperation (own found)

/-- What a late result finds under the identity sent is of the entity sent, since every call
`Descends`. -/
theorem findsOwn_of_leads {tables : List String} (sound : before.QueueSound)
    (listed : sent ∈ before.listOpen tables) (leads : Relation.ReflTransGen Step before during) :
    during.FindsOwn sent := by
  intro row queued named
  obtain ⟨after, descends⟩ := descends_of_leads leads sound
  have same := descends.sameRow sound after (mem_of_listOpen listed).1
    (after.operation?_eq_some.mpr ⟨queued, named⟩)
  exact Operation.isFor_iff.mpr ⟨same.table, same.itemId⟩

/-- The operation of the entity sent is rebased beside all others. -/
theorem sameBeside_rebase {kind : OperationKind} (sound : store.QueueSound)
    (queued : present ∈ store.queue) (belongs : present.isFor sent.table sent.itemId)
    (rebased : store.rebase present kind version = .ok next) :
    SameBeside (keyOf sent) store next := by
  refine (SameBeside.replaceOperation fun row rowQueued named => ?_).trans
    (.of_differs (differs_rebase rebased))
  cases sound.eq_of_id rowQueued queued named
  exact belongs

/-- A success leaves the operations of other entities and the tokens as they were. -/
theorem CompletesPush.sameBeside {body : Option Document} {settlement : Settlement}
    (completes : store.CompletesPush sent body version now settlement next)
    (sound : store.QueueSound) (own : store.FindsOwn sent) :
    SameBeside (keyOf sent) store next := by
  cases completes with
  | rebased found newer rebased =>
    obtain ⟨queued, named⟩ := mem_of_operation? found
    exact sameBeside_rebase sound queued (own _ queued named) rebased
  | settled found same adopts =>
    have differs := differs_adoptAnswer adopts
    refine (SameBeside.of_differs differs).trans (.removeOperation fun row queued => ?_)
    exact own row (differs.queue ▸ queued)
  | vanished gone keeps => exact .refl store
  | recreated gone creates found rebased =>
    obtain ⟨queued, belongs, -⟩ := mem_of_openOperation? found
    exact sameBeside_rebase sound queued belongs rebased
  | undone gone creates free =>
    exact .appendOperation (Operation.isFor_iff.mpr ⟨rfl, rfl⟩)

/-- A conceded conflict leaves the operations of other entities and the tokens as they
were. -/
theorem SettlesWithServer.sameBeside {metadata : EntityMetadata} {settlement : Settlement}
    (settles : store.SettlesWithServer sent document metadata now settlement next)
    (sound : store.QueueSound) (own : store.FindsOwn sent) :
    SameBeside (keyOf sent) store next := by
  have closed {copied : Store} (differs : DiffersInCopies store copied) :
      SameBeside (keyOf sent) store (copied.markCompleted sent.id now) := by
    refine (SameBeside.of_differs differs).trans (.updateOperation (fun row queued => ?_) fun _ => rfl)
    exact own row (differs.queue ▸ queued)
  cases settles with
  | rebased found newer rebased =>
    obtain ⟨queued, named⟩ := mem_of_operation? found
    exact sameBeside_rebase sound queued (own _ queued named) rebased
  | removed found same deleted => exact closed differs_removeEntity
  | adopted found same live merges => exact closed (differs_mergeEntity merges)
  | vanished gone => exact .refl store

/-- A failure leaves the operations of other entities and the tokens as they were. -/
theorem RecordsFailure.sameBeside {status : Option Int} {reason : String} {marked : Bool}
    (records : store.RecordsFailure sent status reason now marked next)
    (own : store.FindsOwn sent) : SameBeside (keyOf sent) store next := by
  cases records with
  | unmarked changed => exact .refl store
  | marked found same alone => exact .updateOperation own fun _ => rfl

/-! ### Local copies -/

namespace WritesOnly

theorem refl (store : Store) : WritesOnly key store store := fun _ _ => rfl

theorem removeEntity : WritesOnly key store (store.removeEntity key) := by
  intro other differs
  simp [differs.symm]

/-- A document is written to the copy of the entity that it names. -/
theorem putEntity {table id : String} (names : EntityMetadata.idOf document = .ok id)
    (written : store.putEntity table document = .ok next) : WritesOnly ⟨table, id⟩ store next := by
  intro other differs
  obtain ⟨metadata, usable, rfl⟩ := putEntity_eq_ok.mp written
  obtain ⟨-, identity, -⟩ := EntityMetadata.ofDocument_eq_ok.mp usable
  cases names.symm.trans identity
  simp [differs.symm]

/-- A remote document is laid over the copy of the entity that it names. -/
theorem mergeEntity {table id : String} (names : EntityMetadata.idOf document = .ok id)
    (ascends : document.Ascends) (written : store.mergeEntity table document = .ok next) :
    WritesOnly ⟨table, id⟩ store next := by
  obtain ⟨metadata, -, ⟨present, -, placed⟩ | ⟨-, placed⟩⟩ := mergeEntity_eq_ok.mp written
  · exact putEntity (EntityMetadata.idOf_overlay names ascends) placed
  · exact putEntity names placed

end WritesOnly

/-- A version is set on a copy, unless the copy is read back as another entity. -/
theorem writesOnly_setEntityVersion (written : store.setEntityVersion key version = .ok next) :
    ∃ id, WritesOnly ⟨key.table, id⟩ store next ∧
      (id = key.id ∨ ∃ document, store.document? key = some document ∧
        EntityMetadata.idOf document = .ok id) := by
  rcases setEntityVersion_eq_ok.mp written with ⟨present, read, placed⟩ | ⟨-, rfl⟩
  · obtain ⟨row, found, read⟩ := readEntity_eq_ok_some.mp read
    obtain ⟨document, denoted, rfl⟩ := EntityRow.read_eq_ok.mp read
    obtain ⟨metadata, usable, -⟩ := putEntity_eq_ok.mp placed
    obtain ⟨-, identity, -⟩ := EntityMetadata.ofDocument_eq_ok.mp usable
    have held := document?_of_read found denoted
    have names := (EntityMetadata.idOf_setField (by decide)).symm.trans identity
    exact ⟨metadata.id, .putEntity identity placed, .inr ⟨document, held, names⟩⟩
  · exact ⟨key.id, .refl store, .inl rfl⟩

/-- Whether a result writes the copy of one entity at most: the one sent, or one to which it
`Strays`. -/
def ReachesOne (store : Store) (sent : Operation) (outcome : Outcome) (next : Store) : Prop :=
  ∃ key, (key = keyOf sent ∨ store.Strays sent outcome key) ∧ WritesOnly key store next

namespace ReachesOne

variable {outcome : Outcome}

/-- What is written to the entity sent reaches no other. -/
theorem own (writes : WritesOnly (keyOf sent) store next) : store.ReachesOne sent outcome next :=
  ⟨keyOf sent, .inl rfl, writes⟩

/-- A version reaches the copy of the entity sent, or the one that it is read back as.
The queue may have changed before it is set. -/
theorem setEntityVersion {changed : Store}
    (answers : ∀ status reason, outcome ≠ .refused status reason)
    (copies : changed.entities = store.entities)
    (written : changed.setEntityVersion (keyOf sent) version = .ok next) :
    store.ReachesOne sent outcome next := by
  have finds (key : EntityKey) : changed.entity? key = store.entity? key := by
    rw [entity?, copies, entity?]
  obtain ⟨id, writes, names⟩ := writesOnly_setEntityVersion written
  refine ⟨⟨sent.table, id⟩, ?_, fun other differs => (writes other differs).trans (finds other)⟩
  by_cases same : id = sent.itemId
  · exact .inl (by rw [same, keyOf])
  · rcases names with named | ⟨document, held, names⟩
    · exact absurd named same
    · rw [document?, finds] at held
      exact .inr (.copy answers held names same)

/-- A rebase sets a version on the copy of the entity sent. -/
theorem rebase {kind : OperationKind} (answers : ∀ status reason, outcome ≠ .refused status reason)
    (belongs : present.isFor sent.table sent.itemId)
    (rebased : store.rebase present kind version = .ok next) :
    store.ReachesOne sent outcome next := by
  rcases rebase_eq_ok.mp rebased with ⟨-, rfl⟩ | ⟨-, written⟩
  · exact own (.refl store)
  · obtain ⟨table, itemId⟩ := Operation.isFor_iff.mp belongs
    rw [table, itemId] at written
    refine setEntityVersion answers ?_ written
    rfl

/-- An answer about an operation as it was sent reaches the entity that it describes. -/
theorem adoptAnswer {current : Operation} {body : Option Document} {header : Option String}
    (found : store.operation? sent.id = some current) (same : current.revision = sent.revision)
    (ascends : ∀ document, body = some document → document.Ascends)
    (adopts : store.adoptAnswer sent body version = .ok next) :
    store.ReachesOne sent (.accepted body header) next := by
  have merged {fields : List (String × Document)} {document : Document} (stays : sent.kind ≠ .delete)
      (given : body.bind Document.fields? = some fields)
      (names : EntityMetadata.idOf document = EntityMetadata.idOf (.object fields))
      (inOrder : (Document.object fields).Ascends → document.Ascends)
      (written : store.mergeEntity sent.table document = .ok next) :
      store.ReachesOne sent (.accepted body header) next := by
    obtain ⟨answer, rfl, object⟩ := Option.bind_eq_some_iff.mp given
    cases Document.fields?_eq_some.mp object
    obtain ⟨metadata, usable, -⟩ := mergeEntity_eq_ok.mp written
    obtain ⟨-, identity, -⟩ := EntityMetadata.ofDocument_eq_ok.mp usable
    refine ⟨⟨sent.table, metadata.id⟩, ?_, .mergeEntity identity (inOrder (ascends _ rfl)) written⟩
    by_cases own : metadata.id = sent.itemId
    · exact .inl (by rw [own, keyOf])
    · exact .inr (.body found same stays (names.symm.trans identity) own)
  unfold Store.adoptAnswer at adopts
  split at adopts
  · cases adopts
    exact own .removeEntity
  · rename_i given stays
    exact merged stays given rfl id adopts
  · rename_i given stays
    exact merged stays given (EntityMetadata.idOf_setFieldIfAbsent (by decide))
      Document.Ascends.setFieldIfAbsent adopts
  · exact setEntityVersion nofun rfl adopts
  · cases adopts
    exact own (.refl store)

/-- A success writes one copy at most. -/
theorem completesPush {body : Option Document} {header : Option String} {settlement : Settlement}
    (own : store.FindsOwn sent) (ascends : ∀ document, body = some document → document.Ascends)
    (completes : store.CompletesPush sent body version now settlement next) :
    store.ReachesOne sent (.accepted body header) next := by
  cases completes with
  | rebased found newer rebased =>
    obtain ⟨queued, named⟩ := mem_of_operation? found
    exact rebase nofun (own _ queued named) rebased
  | settled found same adopts =>
    obtain ⟨key, strays, writes⟩ := adoptAnswer found same ascends adopts
    exact ⟨key, strays, writes⟩
  | vanished gone keeps => exact .own (.refl store)
  | recreated gone creates found rebased =>
    exact rebase nofun (mem_of_openOperation? found).2.1 rebased
  | undone gone creates free => exact .own (.refl store)

/-- A conceded conflict writes one copy at most. -/
theorem settlesWithServer {body : Option Document} {metadata : EntityMetadata}
    {settlement : Settlement} (own : store.FindsOwn sent)
    (ascends : ∀ document, body = some document → document.Ascends)
    (described : conflictingEntity sent body = .ok (document, metadata))
    (settles : store.SettlesWithServer sent document metadata now settlement next) :
    store.ReachesOne sent (.conceded body) next := by
  cases settles with
  | rebased found newer rebased =>
    obtain ⟨queued, named⟩ := mem_of_operation? found
    exact rebase nofun (own _ queued named) rebased
  | removed found same deleted => exact .own .removeEntity
  | adopted found same live merges =>
    -- The conflict is known to be about the entity sent.
    obtain ⟨given, usable, itself⟩ := conflictingEntity_eq_ok.mp described
    obtain ⟨-, identity, -⟩ := EntityMetadata.ofDocument_eq_ok.mp usable
    rw [itself] at identity
    have writes : WritesOnly (keyOf sent) store _ := .mergeEntity identity (ascends document given) merges
    exact .own writes
  | vanished gone => exact .own (.refl store)

end ReachesOne

/-! ### Results -/

/-- The answer that comes with a result. -/
def Outcome.body? : Outcome → Option Document
  | .accepted body _ | .conceded body => body
  | .refused _ _ => none

variable {outcome : Outcome} {tables : List String}

/-- A result leaves the operations of other entities and the tokens as they were (`SameBeside`),
and writes the copy of one entity at most (`ReachesOne`). -/
theorem confined_of_receive (sound : store.QueueSound) (own : store.FindsOwn sent)
    (inOrder : ∀ document, outcome.body? = some document → document.Ascends)
    (received : store.receive sent outcome now = .ok next) :
    SameBeside (keyOf sent) store next ∧ store.ReachesOne sent outcome next := by
  cases receives_of_receive received with
  | accepted completes =>
    exact ⟨completes.sameBeside sound own, .completesPush own inOrder completes⟩
  | conceded described settles =>
    exact ⟨settles.sameBeside sound own, .settlesWithServer own inOrder described settles⟩
  | refused records =>
    refine ⟨records.sameBeside own, .own ?_⟩
    cases records with
    | unmarked changed => exact .refl store
    | marked found same alone => exact .refl store

/-- A result that is received late, whatever calls came between, leaves every token and every
operation of other entities (`rowsBeside`) as it was, and writes the copy of one entity at most.
That is the entity sent, unless the result `Strays`: an answer to an operation that was still as
it was sent describes another one, or the copy of the entity sent is read back as another. -/
theorem result_reaches_one_entity (reachable : Reachable before)
    (listed : sent ∈ before.listOpen tables) (leads : Relation.ReflTransGen Step before during)
    (inOrder : ∀ document, outcome.body? = some document → document.Ascends)
    (received : during.receive sent outcome now = .ok after) :
    after.watermarks = during.watermarks ∧
      after.rowsBeside (keyOf sent) = during.rowsBeside (keyOf sent) ∧
      ∃ key, (key = keyOf sent ∨ during.Strays sent outcome key) ∧
        ∀ other, other ≠ key → after.entity? other = during.entity? other := by
  have own := findsOwn_of_leads reachable.queueSound listed leads
  obtain ⟨sound, -⟩ := descends_of_leads leads reachable.queueSound
  obtain ⟨beside, key, strays, writes⟩ := confined_of_receive sound own inOrder received
  exact ⟨beside.watermarks, beside.rows, key, strays, writes⟩

namespace Stray

/-- An entity that the device created. -/
def entity (id : String) : Document := .object [("id", .text id)]

/-- The answer to the creation of the first entity, which describes the second. -/
def answer : Document :=
  (entity "2").setField EntityMetadata.versionField (.text "v1")

/-- The creation of an entity. -/
def edit (id : String) : Mutation where
  kind := .add
  table := "todo"
  itemId := id
  item := (entity id).render
  before := none
  entityVersion := none

/-- The creations, as they are queued. -/
def first : Operation := .ofMutation (edit "1") 1 ⟨0, 0⟩

@[inherit_doc first]
def second : Operation := .ofMutation (edit "2") 2 ⟨0, 0⟩

/-- The local copy of a created entity. -/
def copy (id : String) : EntityKey × EntityRow :=
  (⟨"todo", id⟩, .ofDocument (entity id) ⟨id, none, none, false⟩)

/-- The store in which both entities are created. -/
def created : Store where
  entities := [copy "1", copy "2"]
  queue := [first, second]
  watermarks := []
  lastSequence := 2

/-- The store after the success of the first creation. -/
def overwritten : Store where
  entities := [copy "1", (⟨"todo", "2"⟩, .ofDocument answer ⟨"2", none, some "v1", false⟩)]
  queue := [second]
  watermarks := []
  lastSequence := 2

theorem read_render_entity (id : String) : Document.read (entity id).render = some (entity id) := by
  have readable : (entity id).Readable Document.depthLimit := by
    refine .object (by decide) (List.pairwise_singleton ..) ?_
    exact List.forall_mem_singleton.mpr .text
  rw [readable.read_render]
  rfl

theorem reachable_created : Reachable created := by
  have firstApplied : (empty.appendOperation first).applyEdit (edit "1") =
      .ok ⟨[copy "1"], [first], [], 1⟩ := by
    have read : Document.read (edit "1").item = some (entity "1") := read_render_entity "1"
    unfold applyEdit
    rw [read]
    exact addEntity_eq_ok.mpr ⟨⟨"1", none, none, false⟩, rfl, rfl, rfl⟩
  have secondApplied : (appendOperation ⟨[copy "1"], [first], [], 1⟩ second).applyEdit (edit "2") =
      .ok created := by
    have read : Document.read (edit "2").item = some (entity "2") := read_render_entity "2"
    unfold applyEdit
    rw [read]
    exact addEntity_eq_ok.mpr ⟨⟨"2", none, none, false⟩, rfl, rfl, rfl⟩
  have one := Reachable.empty.step (.edited (recordLocalMutation_eq rfl firstApplied))
  exact one.step (.edited (recordLocalMutation_eq rfl secondApplied))

theorem received_answer : created.receive first (.accepted (some answer) none) ⟨0, 0⟩ =
    .ok overwritten := by
  have read : created.readEntity ⟨"todo", "2"⟩ =
      .ok (some ⟨"todo", "2", entity "2", none, none⟩) :=
    readEntity_eq_ok_some.mpr ⟨_, rfl, EntityRow.read_eq_ok.mpr ⟨_, read_render_entity "2", rfl⟩⟩
  have adopts : created.adoptAnswer first (some answer) (some "v1") =
      .ok { overwritten with queue := [first, second] } :=
    mergeEntity_eq_ok.mpr
      ⟨⟨"2", none, some "v1", false⟩, rfl, .inl ⟨_, read, putEntity_eq_ok.mpr ⟨_, rfl, rfl⟩⟩⟩
  have completed : created.completePush first (some answer) none ⟨0, 0⟩ =
      .ok (.settled, overwritten) := completePush_eq_settled rfl rfl adopts
  unfold receive
  dsimp only
  rw [completed]
  rfl

end Stray

/-- The success of one creation overwrites the copy of another entity, which has an
unsent creation of its own. -/
theorem result_reaches_one_entity_stray :
    Stray.created.receive Stray.first (.accepted (some Stray.answer) none) ⟨0, 0⟩ =
        .ok Stray.overwritten ∧
      Stray.created.Strays Stray.first (.accepted (some Stray.answer) none) ⟨"todo", "2"⟩ ∧
      Stray.overwritten.entity? ⟨"todo", "2"⟩ ≠ Stray.created.entity? ⟨"todo", "2"⟩ := by
  have changed : Stray.overwritten.entity? ⟨"todo", "2"⟩ ≠ Stray.created.entity? ⟨"todo", "2"⟩ := by
    intro same
    have version : (Stray.created.entity? ⟨"todo", "2"⟩).bind EntityRow.version = none := rfl
    rw [← same] at version
    cases version
  have listed : Stray.first ∈ Stray.created.listOpen [] := List.mem_filter.mpr ⟨List.mem_cons_self .., rfl⟩
  have inOrder : ∀ document, (Outcome.accepted (some Stray.answer) none).body? = some document →
      document.Ascends := by
    rintro _ ⟨⟩ fields ⟨⟩
    exact List.pairwise_pair.mpr (by decide)
  obtain ⟨-, -, key, strays, writes⟩ := result_reaches_one_entity Stray.reachable_created listed .refl
    inOrder Stray.received_answer
  have reached : key = ⟨"todo", "2"⟩ := by
    by_contra differs
    exact changed (writes _ (Ne.symm differs))
  subst reached
  refine ⟨Stray.received_answer, ?_, changed⟩
  rcases strays with own | strays
  · exact absurd own (by decide)
  · exact strays

end OfflineSync.Store
