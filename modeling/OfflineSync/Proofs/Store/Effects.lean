import OfflineSync.Proofs.Store.Showing

/-!
# What decides a push result

A push result is decided by little of the store: the row of the operation sent, whether it has a
rival, and the copy under the key of its entity. What it then does, its `Effect`, is the answer to
the caller, a change of the row and a change of one copy. Each call is written here as a decision,
`deciding`, that is carried out afterwards, `Store.carry`, and is shown to be the call of the store,
`accept_eq_map`.
-/

namespace OfflineSync

/-- A copy that is placed under a key, or removed from there. -/
structure CopyChange where
  key : EntityKey
  row : Option EntityRow

/-- What is done to the row of the operation sent. -/
inductive RowChange where
  | stays
  | revised (operation : Operation)
  | completed
  | failed (status : Option Int) (reason : String)
  | removed

/-- A row after a change, with the moment of the attempt; a removed one is gone. -/
def RowChange.apply (attempted : Option Instant) (row : Operation) : RowChange → Option Operation
  | .stays => some row
  | .revised operation =>
    some { row with
      kind := operation.kind
      state := operation.state
      payload := operation.payload
      entityVersion := operation.entityVersion
      revision := operation.revision }
  | .completed => some { row with state := .completed, lastAttempt := attempted }
  | .failed status reason =>
    some { row with
      state := .failed
      lastAttempt := attempted
      lastStatus := status
      lastError := some reason }
  | .removed => none

/-- A row after a change of the row under an identity. -/
def RowChange.under (id : String) (attempted : Option Instant) (change : RowChange)
    (row : Operation) : Option Operation :=
  if row.id = id then change.apply attempted row else some row

/-- What a caller is told of a result: how it landed on the queue, or whether it was noted. -/
inductive Receipt where
  | landed (settlement : Settlement)
  | noted (marked : Bool)
  deriving DecidableEq, Repr

/-- What a result does: the `Receipt` of the caller, the change of the row and that of a copy. -/
structure Effect where
  receipt : Receipt
  row : RowChange
  copy : Option CopyChange

namespace Store

/-- Writes a result about an operation that was sent. -/
def accept (store : Store) (sent : Operation) (outcome : Outcome) (now : Instant) :
    Except StoreError (Receipt × Store) :=
  match outcome with
  | .accepted body header =>
    (store.completePush sent body header now).map fun (settlement, next) => (.landed settlement, next)
  | .conceded body =>
    (store.settleWithServer sent body now).map fun (settlement, next) => (.landed settlement, next)
  | .refused status reason =>
    (store.recordFailure sent status reason now).map fun (marked, next) => (.noted marked, next)

/-- To receive a result is to accept it, whatever is answered. -/
theorem receive_eq_map_accept (store : Store) (sent : Operation) (outcome : Outcome)
    (now : Instant) :
    store.receive sent outcome now = (store.accept sent outcome now).map Prod.snd := by
  cases outcome with
  | accepted body header | conceded body | refused status reason =>
    simp only [receive, accept, map_map]
    rfl

/-- Carries out a change of a copy. -/
def writeCopy (store : Store) : Option CopyChange → Store
  | none => store
  | some ⟨key, none⟩ => store.removeEntity key
  | some ⟨key, some row⟩ => { store with entities := KeyedList.insert key row store.entities }

/-- Carries out an effect on the rows of an identity. `RowChange.under` changes the row, and
`writeCopy` the copy. -/
def carry (store : Store) (id : String) (attempted : Option Instant) (effect : Effect) : Store :=
  { store.writeCopy effect.copy with
    queue := store.queue.filterMap (effect.row.under id attempted) }

/-! ### Decisions about a copy -/

/-- Reads the copy that a key has. -/
def readCopy (key : EntityKey) (copy : Option EntityRow) : Except StoreError (Option StoredEntity) :=
  match copy with
  | none => .ok none
  | some row => (row.read key).map some

/-- The change that places a document. -/
def placing (table : String) (document : Document) : Except StoreError CopyChange := do
  let metadata ← metadataOf document
  return ⟨⟨table, metadata.id⟩, some (.ofDocument document metadata)⟩

/-- The change that lays a remote document over the copy of its entity. -/
def merging (table : String) (remote : Document) (copy : Option EntityRow) :
    Except StoreError CopyChange := do
  let metadata ← metadataOf remote
  match ← readCopy ⟨table, metadata.id⟩ copy with
  | some present => placing table (present.document.overlay remote)
  | none => placing table remote

/-- The change that sets the version of a copy, if there is a copy. -/
def versioning (key : EntityKey) (version : Option String) (copy : Option EntityRow) :
    Except StoreError (Option CopyChange) := do
  match ← readCopy key copy with
  | some present =>
    return some (← placing key.table
      (present.document.setField EntityMetadata.versionField (.optionalText version)))
  | none => return none

/-- The change that writes what a successful answer says of the entity sent. -/
def adopting (sent : Operation) (body : Option Document) (version : Option String)
    (copy : Option EntityRow) : Except StoreError (Option CopyChange) :=
  match sent.kind, body.bind Document.fields?, version with
  | .delete, _, _ => .ok (some ⟨keyOf sent, none⟩)
  | _, some fields, none => (merging sent.table (.object fields) copy).map some
  | _, some fields, some version =>
    (merging sent.table
      ((Document.object fields).setFieldIfAbsent EntityMetadata.versionField (.text version))
      copy).map some
  | _, none, some version => versioning (keyOf sent) (some version) copy
  | _, none, none => .ok none

/-! ### Decisions about a result -/

/-- The effect of rebasing the operation that is queued. -/
def rebasing (current : Operation) (kind : OperationKind) (version : Option String)
    (copy : Option EntityRow) : Except StoreError Effect :=
  let rebased := current.rebase kind version
  if rebased.kind = .delete then .ok ⟨.landed .rebased, .revised rebased, none⟩
  else
    (versioning (keyOf current) rebased.entityVersion copy).map fun change =>
      ⟨.landed .rebased, .revised rebased, change⟩

/-- The effect of a success. -/
def completing (sent : Operation) (body : Option Document) (header : Option String)
    (current : Operation) (copy : Option EntityRow) : Except StoreError Effect :=
  let version := answeredVersion body header
  if current.revision ≠ sent.revision then rebasing current sent.kind version copy
  else (adopting sent body version copy).map fun change => ⟨.landed .settled, .removed, change⟩

/-- The effect of a conflict that is conceded. -/
def conceding (sent : Operation) (body : Option Document) (current : Operation)
    (copy : Option EntityRow) : Except StoreError Effect := do
  let (document, metadata) ← conflictingEntity sent body
  if current.revision ≠ sent.revision then
    rebasing current sent.kind (if metadata.deleted then none else metadata.version) copy
  else if metadata.deleted then
    .ok ⟨.landed .settled, .completed, some ⟨keyOf sent, none⟩⟩
  else
    (merging sent.table document copy).map fun change =>
      ⟨.landed .settled, .completed, some change⟩

/-- The effect of a failure. -/
def failing (sent : Operation) (status : Option Int) (reason : String) (current : Operation)
    (rival : Bool) : Except StoreError Effect :=
  if current.revision ≠ sent.revision then .ok ⟨.noted false, .stays, none⟩
  else if rival then .error (.ofEngine (.uniqueConstraint openKeyColumns))
  else .ok ⟨.noted true, .failed status reason, none⟩

/-- The effect of a result about an operation that is still queued: `completing`, `conceding` or
`failing`. -/
def deciding (sent : Operation) (outcome : Outcome) (current : Operation) (rival : Bool)
    (copy : Option EntityRow) : Except StoreError Effect :=
  match outcome with
  | .accepted body header => completing sent body header current copy
  | .conceded body => conceding sent body current copy
  | .refused status reason => failing sent status reason current rival

/-! ### The calls are the decisions, carried out -/

section Equations

variable {store : Store} {table id : String} {document remote : Document} {key : EntityKey}
  {version : Option String} {sent current : Operation} {body : Option Document}
  {outcome : Outcome} {now : Instant}

@[simp] theorem writeCopy_none (store : Store) : store.writeCopy none = store := rfl

/-- A copy is written beside the queue. -/
@[simp] theorem queue_writeCopy (store : Store) (change : Option CopyChange) :
    (store.writeCopy change).queue = store.queue := by
  obtain _ | ⟨key, _ | row⟩ := change <;> rfl

theorem putEntity_eq_map :
    store.putEntity table document =
      (placing table document).map fun change => store.writeCopy (some change) := by
  unfold putEntity placing
  cases metadataOf document <;> rfl

/-- A remote document is merged by the copy of the entity that it names. -/
theorem mergeEntity_eq_map
    (names : ∀ metadata, EntityMetadata.ofDocument remote = .ok metadata → metadata.id = id) :
    store.mergeEntity table remote =
      (merging table remote (store.entity? ⟨table, id⟩)).map fun change =>
        store.writeCopy (some change) := by
  unfold mergeEntity merging
  cases usable : metadataOf remote with
  | error fault => rfl
  | ok metadata =>
    cases names metadata (metadataOf_eq_ok.mp usable)
    change (store.readEntity ⟨table, metadata.id⟩ >>= _) =
      Except.map _ (store.readEntity ⟨table, metadata.id⟩ >>= _)
    cases store.readEntity ⟨table, metadata.id⟩ with
    | error fault => rfl
    | ok present => cases present <;> exact putEntity_eq_map

theorem setEntityVersion_eq_map :
    store.setEntityVersion key version =
      (versioning key version (store.entity? key)).map store.writeCopy := by
  unfold setEntityVersion versioning
  change (store.readEntity key >>= _) = Except.map _ (store.readEntity key >>= _)
  cases store.readEntity key with
  | error fault => rfl
  | ok present =>
    cases present with
    | none => rfl
    | some present =>
      generalize written : present.document.setField EntityMetadata.versionField
        (.optionalText version) = document
      change store.putEntity key.table (present.document.setField _ _) = Except.map store.writeCopy
        (placing key.table (present.document.setField _ _) >>= fun change => pure (some change))
      rw [written, putEntity_eq_map]
      cases placing key.table document <;> rfl

/-- What a successful answer says is decided by the copy of the entity sent, if an entity
that comes with it is the one sent. -/
theorem adoptAnswer_eq_map
    (answers : ∀ document, body = some document → ∀ id, document.IsEntity id → id = sent.itemId) :
    store.adoptAnswer sent body version =
      (adopting sent body version (store.entity? (keyOf sent))).map store.writeCopy := by
  have merged {fields : List (String × Document)} {remote : Document}
      (given : body.bind Document.fields? = some fields)
      (same : ∀ id, remote.IsEntity id → (Document.object fields).IsEntity id) :
      store.mergeEntity sent.table remote =
        ((merging sent.table remote (store.entity? (keyOf sent))).map some).map store.writeCopy := by
    obtain ⟨document, rfl, object⟩ := Option.bind_eq_some_iff.mp given
    cases Document.fields?_eq_some.mp object
    have names (metadata : EntityMetadata) (usable : EntityMetadata.ofDocument remote = .ok metadata) :
        metadata.id = sent.itemId :=
      answers _ rfl _ (same metadata.id ⟨metadata, usable, rfl⟩)
    rw [map_map]
    exact mergeEntity_eq_map names
  unfold adoptAnswer adopting
  cases sent.kind with
  | delete => rfl
  | add | replace =>
    cases given : body.bind Document.fields? with
    | none =>
      cases version with
      | none => rfl
      | some version => exact setEntityVersion_eq_map
    | some fields =>
      cases version with
      | none => exact merged given fun _ entity => entity
      | some version => exact merged given fun _ => Document.IsEntity.setVersionIfAbsent_iff.mp

/-- A row that is not removed is updated, by `updateOperation`. -/
theorem carry_eq_updateOperation {attempted : Option Instant} {receipt : Receipt} {change : RowChange}
    {copy : Option CopyChange} {same : Operation → Operation}
    (keeps : ∀ row, change.apply attempted row = some (same row)) :
    store.carry id attempted ⟨receipt, change, copy⟩ =
      (store.writeCopy copy).updateOperation id same := by
  have rows : store.queue.filterMap (change.under id attempted) =
      store.queue.map fun row => if row.id == id then same row else row := by
    rw [← List.filterMap_eq_map]
    refine List.filterMap_congr fun row queued => ?_
    by_cases named : row.id = id <;> simp [RowChange.under, named, keeps]
  simp [carry, updateOperation, rows]

theorem carry_removed {attempted : Option Instant} {receipt : Receipt} {copy : Option CopyChange} :
    store.carry id attempted ⟨receipt, .removed, copy⟩ = (store.writeCopy copy).removeOperation id := by
  have rows : store.queue.filterMap (RowChange.removed.under id attempted) =
      store.queue.filter fun row => row.id != id := by
    rw [← List.filterMap_eq_filter]
    refine List.filterMap_congr fun row queued => ?_
    by_cases named : row.id = id <;> simp [RowChange.under, RowChange.apply, named, Option.guard]
  simp [carry, removeOperation, rows]

theorem carry_stays {attempted : Option Instant} {receipt : Receipt} :
    store.carry id attempted ⟨receipt, .stays, none⟩ = store := by
  have rows : store.queue.filterMap (RowChange.stays.under id attempted) = store.queue := by
    refine (List.filterMap_congr fun row queued => ?_).trans List.filterMap_some
    exact ite_id _
  unfold carry
  rw [rows]
  rfl

/-- A rebase is decided by the copy of the entity of the operation that is queued. -/
theorem rebase_eq_map (store : Store) (current : Operation) (kind : OperationKind)
    (version : Option String) (attempted : Option Instant) :
    (store.rebase current kind version).map (Receipt.landed .rebased, ·) =
      (rebasing current kind version (store.entity? (keyOf current))).map fun effect =>
        (effect.receipt, store.carry current.id attempted effect) := by
  have revised (copy : Option CopyChange) :
      store.carry current.id attempted
          ⟨.landed .rebased, .revised (current.rebase kind version), copy⟩ =
        (store.replaceOperation (current.rebase kind version)).writeCopy copy := by
    refine (carry_eq_updateOperation fun row => rfl).trans ?_
    cases copy with
    | none => rfl
    | some change => obtain ⟨key, row | row⟩ := change <;> rfl
  unfold rebase rebasing
  dsimp only
  split
  · simp only [Except.map]
    rw [revised]
    rfl
  · change Except.map _ (setEntityVersion _ (keyOf current) _) = _
    rw [setEntityVersion_eq_map]
    change Except.map _ (Except.map _ (versioning _ _ (store.entity? (keyOf current)))) = _
    cases versioning (keyOf current) (current.rebase kind version).entityVersion
        (store.entity? (keyOf current)) with
    | error fault => rfl
    | ok copy =>
      simp only [Except.map]
      rw [revised]

/-- Carries out what was decided, by `carry`, unless it was a refusal. -/
def enact (store : Store) (id : String) (now : Instant) (decided : Except StoreError Effect) :
    Except StoreError (Receipt × Store) :=
  decided.map fun effect => (effect.receipt, store.carry id (some now) effect)

/-- A success is decided by the row of the operation and the copy of its entity, as
`completing` says. -/
theorem completePush_eq_map {header : Option String} (found : store.operation? sent.id = some current)
    (own : keyOf current = keyOf sent)
    (answers : ∀ document, body = some document → ∀ id, document.IsEntity id → id = sent.itemId) :
    (store.completePush sent body header now).map (fun result => (.landed result.1, result.2)) =
      store.enact sent.id now (completing sent body header current (store.entity? (keyOf sent))) := by
  obtain ⟨-, named⟩ := mem_of_operation? found
  unfold completePush completing
  simp only [found]
  split
  · have rebased := rebase_eq_map store current sent.kind (answeredVersion body header) (some now)
    rw [own, named] at rebased
    refine Eq.trans ?_ rebased
    cases store.rebase current sent.kind (answeredVersion body header) <;> rfl
  · rw [adoptAnswer_eq_map answers]
    cases adopting sent body (answeredVersion body header) (store.entity? (keyOf sent)) with
    | error fault => rfl
    | ok copy =>
      simp only [enact, Except.map, carry_removed]
      rfl

/-- A conflict is decided by the row of the operation and the copy of its entity, as
`conceding` says. -/
theorem settleWithServer_eq_map (found : store.operation? sent.id = some current)
    (own : keyOf current = keyOf sent) :
    (store.settleWithServer sent body now).map (fun result => (.landed result.1, result.2)) =
      store.enact sent.id now (conceding sent body current (store.entity? (keyOf sent))) := by
  obtain ⟨-, named⟩ := mem_of_operation? found
  unfold settleWithServer conceding
  cases described : conflictingEntity sent body with
  | error fault => rfl
  | ok conflict =>
    obtain ⟨document, metadata⟩ := conflict
    obtain ⟨-, usable, itself⟩ := conflictingEntity_eq_ok.mp described
    simp only [bind, Except.bind, found]
    split
    · have rebased := rebase_eq_map store current sent.kind
        (if metadata.deleted then none else metadata.version) (some now)
      rw [own, named] at rebased
      refine Eq.trans ?_ rebased
      cases store.rebase current sent.kind (if metadata.deleted then none else metadata.version) <;> rfl
    · have completed (copy : Option CopyChange) :
          store.carry sent.id (some now) ⟨.landed .settled, .completed, copy⟩ =
            (store.writeCopy copy).markCompleted sent.id now :=
        carry_eq_updateOperation fun row => rfl
      split
      · simp only [enact, Except.map, completed]
        rfl
      · have names (other : EntityMetadata) (same : EntityMetadata.ofDocument document = .ok other) :
            other.id = sent.itemId := by
          cases usable.symm.trans same
          exact itself
        rw [mergeEntity_eq_map names]
        generalize decided : merging sent.table document (store.entity? (keyOf sent)) = merged
        unfold keyOf at decided
        rw [decided]
        cases merged with
        | error fault => rfl
        | ok change =>
          simp only [enact, Except.map, completed]
          rfl

/-- A failure is decided by the row of the operation and whether it has a rival, as
`failing` says. -/
theorem recordFailure_eq_map {status : Option Int} {reason : String}
    (found : store.operation? sent.id = some current) :
    (store.recordFailure sent status reason now).map (fun result => (.noted result.1, result.2)) =
      store.enact sent.id now (failing sent status reason current (store.hasOpenRival current)) := by
  unfold recordFailure failing
  simp only [found]
  split
  · simp only [enact, Except.map, carry_stays]
  · split
    · rfl
    · simp only [enact, Except.map]
      rw [carry_eq_updateOperation fun row => rfl]
      rfl

/-- What a result does to an operation that is still queued is decided by its row, by
whether it has a rival and by the copy of its entity. -/
theorem accept_eq_map (found : store.operation? sent.id = some current)
    (own : keyOf current = keyOf sent)
    (answers : ∀ document, outcome.body? = some document →
      ∀ id, document.IsEntity id → id = sent.itemId) :
    store.accept sent outcome now =
      store.enact sent.id now
        (deciding sent outcome current (store.hasOpenRival current) (store.entity? (keyOf sent))) := by
  cases outcome with
  | accepted body header => exact completePush_eq_map found own answers
  | conceded body => exact settleWithServer_eq_map found own
  | refused status reason => exact recordFailure_eq_map found

end Equations

/-! ### What a result writes -/

/-- The keys whose copy a result may write: that of the entity sent, and the one under
which its copy is read back. -/
inductive Reaches (store : Store) (sent : Operation) (outcome : Outcome) : EntityKey → Prop where
  | own : Reaches store sent outcome (keyOf sent)
  | copy {document : Document} {id : String}
      (answers : ∀ status reason, outcome ≠ .refused status reason)
      (held : store.document? (keyOf sent) = some document)
      (names : EntityMetadata.idOf document = .ok id) :
      Reaches store sent outcome ⟨sent.table, id⟩

section Footprint

variable {store : Store} {table id : String} {document remote : Document} {copy : Option EntityRow}
  {version : Option String} {sent current : Operation} {body : Option Document}
  {outcome : Outcome} {change : CopyChange} {effect : Effect}

/-- A document is placed under the identity that it carries. -/
theorem key_of_placing (names : EntityMetadata.idOf document = .ok id)
    (placed : placing table document = .ok change) : change.key = ⟨table, id⟩ := by
  obtain ⟨metadata, usable, same⟩ := bind_eq_ok.mp placed
  obtain ⟨-, identity, -⟩ := EntityMetadata.ofDocument_eq_ok.mp (metadataOf_eq_ok.mp usable)
  cases names.symm.trans identity
  cases same
  rfl

/-- A remote document is merged under the identity that it carries. -/
theorem key_of_merging (ascends : remote.Ascends) (itself : ∀ other, remote.IsEntity other → other = id)
    (merged : merging table remote copy = .ok change) : change.key = ⟨table, id⟩ := by
  obtain ⟨metadata, usable, merged⟩ := bind_eq_ok.mp merged
  have described := metadataOf_eq_ok.mp usable
  cases itself metadata.id ⟨metadata, described, rfl⟩
  obtain ⟨-, names, -⟩ := EntityMetadata.ofDocument_eq_ok.mp described
  obtain ⟨present, -, placed⟩ := bind_eq_ok.mp merged
  cases present with
  | none => exact key_of_placing names placed
  | some present => exact key_of_placing (EntityMetadata.idOf_overlay names ascends) placed

/-- A version is written under the key that the copy is read back under. -/
theorem reaches_of_versioning (answers : ∀ status reason, outcome ≠ .refused status reason)
    (versioned : versioning (keyOf sent) version (store.entity? (keyOf sent)) = .ok (some change)) :
    store.Reaches sent outcome change.key := by
  obtain ⟨present, read, versioned⟩ := bind_eq_ok.mp versioned
  cases present with
  | none => cases versioned
  | some present =>
    obtain ⟨_, placed, same⟩ := bind_eq_ok.mp versioned
    cases same
    obtain ⟨row, found, read⟩ := readEntity_eq_ok_some.mp read
    obtain ⟨document, denoted, rfl⟩ := EntityRow.read_eq_ok.mp read
    have held : store.document? (keyOf sent) = some document :=
      document?_of_read found denoted
    obtain ⟨metadata, usable, same⟩ := bind_eq_ok.mp placed
    cases same
    obtain ⟨-, names, -⟩ := EntityMetadata.ofDocument_eq_ok.mp (metadataOf_eq_ok.mp usable)
    rw [EntityMetadata.idOf_setField (by decide)] at names
    exact .copy answers held names

/-- A successful answer about the entity sent is written where the entity sent is. -/
theorem reaches_of_adopting {header : Option String}
    (answers : (Outcome.accepted body header).Answers sent)
    (adopted : adopting sent body version (store.entity? (keyOf sent)) = .ok (some change)) :
    store.Reaches sent (.accepted body header) change.key := by
  have merged {fields : List (String × Document)} {remote : Document}
      (given : body.bind Document.fields? = some fields)
      (inOrder : (Document.object fields).Ascends → remote.Ascends)
      (same : ∀ id, remote.IsEntity id → (Document.object fields).IsEntity id)
      (written : (merging sent.table remote (store.entity? (keyOf sent))).map some =
        .ok (some change)) : store.Reaches sent (.accepted body header) change.key := by
    obtain ⟨document, rfl, object⟩ := Option.bind_eq_some_iff.mp given
    cases Document.fields?_eq_some.mp object
    obtain ⟨ascends, itself⟩ := answers _ rfl
    obtain ⟨_, written, same'⟩ := map_eq_ok.mp written
    cases same'
    rw [key_of_merging (inOrder ascends) (fun id entity => itself id (same id entity)) written]
    exact .own
  unfold adopting at adopted
  split at adopted
  · cases adopted
    exact .own
  · exact merged ‹_› id (fun _ => id) adopted
  · exact merged ‹_› Document.Ascends.setFieldIfAbsent
      (fun _ => Document.IsEntity.setVersionIfAbsent_iff.mp) adopted
  · exact reaches_of_versioning nofun adopted
  · cases adopted

/-- A rebase writes the version where the copy of the entity is read back. -/
theorem reaches_of_rebasing {kind : OperationKind} (own : keyOf current = keyOf sent)
    (answers : ∀ status reason, outcome ≠ .refused status reason)
    (rebased : rebasing current kind version (store.entity? (keyOf sent)) = .ok effect)
    (writes : effect.copy = some change) : store.Reaches sent outcome change.key := by
  unfold rebasing at rebased
  dsimp only at rebased
  split at rebased
  · cases rebased
    cases writes
  · obtain ⟨copy, versioned, rfl⟩ := map_eq_ok.mp rebased
    cases writes
    rw [own] at versioned
    exact reaches_of_versioning answers versioned

/-- A result whose entity is the one sent writes the copy of the entity sent, or the one
that it is read back as. -/
theorem reaches_of_deciding {rival : Bool} (own : keyOf current = keyOf sent)
    (answers : outcome.Answers sent)
    (decided : deciding sent outcome current rival (store.entity? (keyOf sent)) = .ok effect)
    (writes : effect.copy = some change) : store.Reaches sent outcome change.key := by
  cases outcome with
  | accepted body header =>
    unfold deciding completing at decided
    dsimp only at decided
    split at decided
    · exact reaches_of_rebasing own nofun decided writes
    · obtain ⟨copy, adopted, rfl⟩ := map_eq_ok.mp decided
      cases writes
      exact reaches_of_adopting answers adopted
  | conceded body =>
    obtain ⟨⟨document, metadata⟩, described, decided⟩ := bind_eq_ok.mp decided
    obtain ⟨given, usable, itself⟩ := conflictingEntity_eq_ok.mp described
    dsimp only at decided
    split at decided
    · exact reaches_of_rebasing own nofun decided writes
    · split at decided
      · cases decided
        cases writes
        exact .own
      · obtain ⟨merged, written, rfl⟩ := map_eq_ok.mp decided
        cases writes
        obtain ⟨ascends, itself⟩ := answers document given
        rw [key_of_merging ascends itself written]
        exact .own
  | refused status reason =>
    unfold deciding failing at decided
    dsimp only at decided
    split at decided
    · cases decided
      cases writes
    · split at decided
      · cases decided
      · cases decided
        cases writes

/-! ### What an effect leaves as it was -/

variable {attempted : Option Instant} {row : Operation} {key : EntityKey}

/-- Tokens and the counter have no part in an effect. -/
@[simp] theorem watermarks_carry :
    (store.carry id attempted effect).watermarks = store.watermarks := by
  obtain ⟨receipt, row, _ | ⟨written, _ | placed⟩⟩ := effect <;> rfl

@[simp, inherit_doc watermarks_carry]
theorem lastSequence_carry :
    (store.carry id attempted effect).lastSequence = store.lastSequence := by
  obtain ⟨receipt, row, _ | ⟨written, _ | placed⟩⟩ := effect <;> rfl

/-- A row under another identity is not changed. -/
theorem under_of_ne {changes : RowChange} (differs : row.id ≠ id) :
    changes.under id attempted row = some row :=
  if_neg differs

/-- A row that was not removed is still of its entity, under its identity. -/
theorem keyOf_of_under {changes : RowChange} {present : Operation}
    (changed : changes.under id attempted present = some row) :
    row.id = present.id ∧ keyOf row = keyOf present := by
  unfold RowChange.under at changed
  split at changed
  · cases changes with
    | stays | revised operation | completed | failed status reason =>
      cases changed
      exact ⟨rfl, rfl⟩
    | removed => cases changed
  · cases changed
    exact ⟨rfl, rfl⟩

/-- A row of a later queue is one of the queue before, of the same entity, and the same
row unless it is under the identity of the effect. -/
theorem mem_carry (queued : row ∈ (store.carry id attempted effect).queue) :
    ∃ present ∈ store.queue, present.id = row.id ∧ keyOf present = keyOf row ∧
      (row.id ≠ id → row = present) := by
  obtain ⟨present, wasQueued, kept⟩ := List.mem_filterMap.mp queued
  obtain ⟨named, same⟩ := keyOf_of_under kept
  refine ⟨present, wasQueued, named.symm, same.symm, fun differs => ?_⟩
  rw [under_of_ne (named ▸ differs)] at kept
  exact (Option.some.inj kept).symm

/-- A row under another identity is found as it was. -/
theorem operation?_carry {other : String} (differs : other ≠ id) :
    (store.carry id attempted effect).operation? other = store.operation? other := by
  have same (row : Operation) :
      (effect.row.under id attempted row).any (·.id == other) = (row.id == other) := by
    by_cases named : row.id = id
    · have apart : (row.id == other) = false := by
        rw [named]
        exact beq_false_of_ne differs.symm
      cases changed : effect.row.under id attempted row with
      | none => exact apart.symm
      | some later => rw [Option.any_some, (keyOf_of_under changed).1]
    · rw [under_of_ne named, Option.any_some]
  unfold operation? carry
  rw [List.find?_filterMap]
  simp only [same]
  cases found : store.queue.find? (·.id == other) with
  | none => rfl
  | some row =>
    have named : row.id = other := (mem_of_operation? found).2
    exact under_of_ne (named ▸ differs)

/-- A copy under another key is found as it was. -/
theorem entity?_carry (differs : ∀ change, effect.copy = some change → change.key ≠ key) :
    (store.carry id attempted effect).entity? key = store.entity? key := by
  obtain ⟨receipt, row, copy⟩ := effect
  obtain _ | ⟨written, _ | placed⟩ := copy
  · rfl
  · exact (entity?_removeEntity store written key).trans (if_neg (differs _ rfl))
  · exact (KeyedList.get?_insert written key placed store.entities).trans (if_neg (differs _ rfl))

/-- An operation of another entity has the rivals that it had. -/
theorem hasOpenRival_carry (others : ∀ row ∈ store.queue, row.id = id → keyOf row ≠ keyOf current) :
    (store.carry id attempted effect).hasOpenRival current = store.hasOpenRival current := by
  have sameEntity {row : Operation} : row.SameEntity current ↔ keyOf row = keyOf current := by
    simp [Operation.SameEntity, keyOf]
  rw [Bool.eq_iff_iff, hasOpenRival_iff, hasOpenRival_iff]
  constructor
  · rintro ⟨rival, queued, differs, same, isOpen⟩
    obtain ⟨present, wasQueued, named, entity, unchanged⟩ := mem_carry queued
    have apart : rival.id ≠ id := fun own =>
      others present wasQueued (named.trans own) (entity.trans (sameEntity.mp same))
    exact ⟨rival, unchanged apart ▸ wasQueued, differs, same, isOpen⟩
  · rintro ⟨rival, queued, differs, same, isOpen⟩
    have apart : rival.id ≠ id := fun own => others rival queued own (sameEntity.mp same)
    exact ⟨rival, List.mem_filterMap.mpr ⟨rival, queued, if_neg apart⟩, differs, same, isOpen⟩

end Footprint

end Store

end OfflineSync
