import OfflineSync.Proofs.Store.Confinement
import OfflineSync.Sync.Push

/-!
# Successful answers

A successful answer settles an operation that is still as it was sent, provided that the store
`Absorbs` it: that it can write down what the answer says of the entity. Otherwise the operation is
reported as failed and stays queued as it is, so that it will be sent again although the remote has
carried it out.
-/

namespace OfflineSync

namespace Response

/-- What a response says of an entity: its body, where that is an object. -/
def entity? (response : Response) : Option Document :=
  response.body.filter Document.isObject

/-- The version that a successful response gives. -/
def givenVersion (response : Response) : Option String :=
  Store.answeredVersion response.entity? response.version

end Response

namespace Document

/-- A document with the version that an answer gives, unless it has one of its own. -/
def withGivenVersion (document : Document) : Option String → Document
  | some version => document.setFieldIfAbsent EntityMetadata.versionField (.text version)
  | none => document

variable {document : Document} {version : Option String}

/-- A version that is given (`withGivenVersion`) takes its place among the fields. -/
theorem Ascends.withGivenVersion (ascends : document.Ascends) :
    (document.withGivenVersion version).Ascends := by
  cases version with
  | none => exact ascends
  | some version => exact ascends.setFieldIfAbsent

/-- A version that is given does not decide which entity a document is. -/
theorem isEntity_withGivenVersion {id : String} :
    (document.withGivenVersion version).IsEntity id ↔ document.IsEntity id := by
  cases version with
  | none => exact Iff.rfl
  | some version => exact IsEntity.setVersionIfAbsent_iff

end Document

namespace Store

/-- Whether the local copy of an entity can be written with a change: there is no copy, or it is a
document (`document?`) that the change makes an entity. -/
def CanChange (store : Store) (key : EntityKey) (change : Document → Document) : Prop :=
  store.entity? key = none ∨
    ∃ document, store.document? key = some document ∧ ∃ id, (change document).IsEntity id

/-- Whether a store can write down what a successful answer says of the entity sent: it
`CanChange` the local copy, unless the answer is about a removal or says nothing. -/
inductive Absorbs (store : Store) (sent : Operation) (response : Response) : Prop where
  | removal (removes : sent.kind = .delete) : Absorbs store sent response
  /-- The answer says nothing of the entity. -/
  | silent (plain : response.entity? = none) (unversioned : response.version = none) :
      Absorbs store sent response
  /-- The answer names a version at most, which the local copy takes. -/
  | versioned (plain : response.entity? = none)
      (changes : store.CanChange (keyOf sent) fun document => document) :
      Absorbs store sent response
  /-- The answer describes an entity, which is laid over the local copy of that entity. -/
  | described {body : Document} {id : String} (given : response.entity? = some body)
      (entity : body.IsEntity id)
      (changes : store.CanChange ⟨sent.table, id⟩ fun document =>
        document.overlay (body.withGivenVersion response.givenVersion)) :
      Absorbs store sent response

variable {store next : Store} {sent current : Operation} {table : String} {key : EntityKey}
  {document body : Document} {body? : Option Document} {header version : Option String}
  {response : Response}
  {now : Instant}

/-! ### What can be written -/

/-- A document can be written by `putEntity` exactly when it is an entity. -/
theorem exists_putEntity :
    (∃ next, store.putEntity table document = .ok next) ↔ ∃ id, document.IsEntity id := by
  constructor
  · rintro ⟨next, written⟩
    obtain ⟨metadata, usable, -⟩ := putEntity_eq_ok.mp written
    exact ⟨metadata.id, metadata, usable, rfl⟩
  · rintro ⟨id, metadata, usable, -⟩
    exact ⟨_, putEntity_eq_ok.mpr ⟨metadata, usable, rfl⟩⟩

/-- A document that is written is the copy of the entity that it names. -/
theorem entity?_of_putEntity {id : String} (names : EntityMetadata.idOf document = .ok id)
    (written : store.putEntity table document = .ok next) :
    ∃ metadata, EntityMetadata.ofDocument document = .ok metadata ∧ metadata.id = id ∧
      next.entity? ⟨table, id⟩ = some (.ofDocument document metadata) := by
  obtain ⟨metadata, usable, rfl⟩ := putEntity_eq_ok.mp written
  obtain ⟨-, identity, -⟩ := EntityMetadata.ofDocument_eq_ok.mp usable
  cases names.symm.trans identity
  exact ⟨metadata, usable, rfl, by simp⟩

/-- The local copy that is read is the document of its row. -/
theorem document?_eq_some :
    store.document? key = some document ↔
      ∃ present, store.readEntity key = .ok (some present) ∧ present.document = document := by
  unfold document?
  constructor
  · intro held
    obtain ⟨row, found, read⟩ := Option.bind_eq_some_iff.mp held
    exact ⟨_, readEntity_eq_ok_some.mpr ⟨row, found, EntityRow.read_eq_ok.mpr ⟨_, read, rfl⟩⟩, rfl⟩
  · rintro ⟨present, held, rfl⟩
    obtain ⟨row, found, denoted⟩ := readEntity_eq_ok_some.mp held
    obtain ⟨read, denotes, rfl⟩ := EntityRow.read_eq_ok.mp denoted
    exact Option.bind_eq_some_iff.mpr ⟨row, found, denotes⟩

/-- A remote document can be merged by `mergeEntity` exactly when it is an entity whose local
copy it can be laid over. -/
theorem exists_mergeEntity :
    (∃ next, store.mergeEntity table document = .ok next) ↔
      ∃ id, document.IsEntity id ∧ store.CanChange ⟨table, id⟩ (·.overlay document) := by
  constructor
  · rintro ⟨next, merged⟩
    obtain ⟨metadata, usable, ⟨present, read, written⟩ | ⟨absent, written⟩⟩ :=
      mergeEntity_eq_ok.mp merged
    · refine ⟨metadata.id, ⟨metadata, usable, rfl⟩, .inr ⟨present.document, ?_, ?_⟩⟩
      · exact document?_eq_some.mpr ⟨present, read, rfl⟩
      · exact exists_putEntity.mp ⟨next, written⟩
    · exact ⟨metadata.id, ⟨metadata, usable, rfl⟩, .inl absent⟩
  · rintro ⟨id, ⟨metadata, usable, rfl⟩, absent | ⟨older, held, entity⟩⟩
    · obtain ⟨next, written⟩ := exists_putEntity.mpr ⟨metadata.id, metadata, usable, rfl⟩
      exact ⟨next, mergeEntity_eq_ok.mpr ⟨metadata, usable, .inr ⟨absent, written⟩⟩⟩
    · obtain ⟨present, read, rfl⟩ := document?_eq_some.mp held
      obtain ⟨next, written⟩ := exists_putEntity.mpr entity
      exact ⟨next, mergeEntity_eq_ok.mpr ⟨metadata, usable, .inl ⟨present, read, written⟩⟩⟩

/-- A version can be set by `setEntityVersion` exactly when there is no local copy or it is an
entity. -/
theorem exists_setEntityVersion_iff :
    (∃ next, store.setEntityVersion key version = .ok next) ↔
      store.CanChange key fun document => document := by
  constructor
  · rintro ⟨next, written⟩
    obtain ⟨present, read, placed⟩ | ⟨absent, -⟩ := setEntityVersion_eq_ok.mp written
    · obtain ⟨id, entity⟩ := exists_putEntity.mp ⟨next, placed⟩
      exact .inr ⟨present.document, document?_eq_some.mpr ⟨present, read, rfl⟩, id,
        Document.IsEntity.setVersion_iff.mp entity⟩
    · exact .inl absent
  · rintro (absent | ⟨document, held, id, entity⟩)
    · exact ⟨store, setEntityVersion_eq_ok.mpr (.inr ⟨absent, rfl⟩)⟩
    · obtain ⟨present, read, rfl⟩ := document?_eq_some.mp held
      obtain ⟨next, written⟩ := exists_putEntity.mpr ⟨id, entity.setVersion (.optionalText version)⟩
      exact ⟨next, setEntityVersion_eq_ok.mpr (.inl ⟨present, read, written⟩)⟩

/-- An object in an answer is merged (`mergeEntity`) with the version that the answer gives. -/
theorem adoptAnswer_of_isObject (stays : sent.kind ≠ .delete) (object : body.isObject) :
    store.adoptAnswer sent (some body) version =
      store.mergeEntity sent.table (body.withGivenVersion version) := by
  obtain ⟨fields, rfl⟩ := Document.isObject_iff.mp object
  unfold adoptAnswer
  cases kind : sent.kind with
  | delete => exact absurd kind stays
  | add | replace => cases version <;> rfl

/-- An answer without an object is its version, which `setEntityVersion` sets. -/
theorem adoptAnswer_none (stays : sent.kind ≠ .delete) :
    store.adoptAnswer sent none version =
      match version with
      | some version => store.setEntityVersion (keyOf sent) (some version)
      | none => .ok store := by
  unfold adoptAnswer
  cases kind : sent.kind with
  | delete => exact absurd kind stays
  | add | replace => cases version <;> rfl

/-- A store adopts a successful answer by `adoptAnswer` exactly when it `Absorbs` what the answer
says. -/
theorem exists_adoptAnswer :
    (∃ adopted, store.adoptAnswer sent response.entity? response.givenVersion = .ok adopted) ↔
      store.Absorbs sent response := by
  by_cases removes : sent.kind = .delete
  · refine iff_of_true ⟨store.removeEntity (keyOf sent), ?_⟩ (.removal removes)
    unfold adoptAnswer
    rw [removes]
    rfl
  cases said : response.entity? with
  | none =>
    have given : response.givenVersion = response.version := by
      rw [Response.givenVersion, said]
      rfl
    rw [given, adoptAnswer_none removes]
    cases versioned : response.version with
    | none => exact iff_of_true ⟨store, rfl⟩ (.silent said versioned)
    | some version =>
      refine exists_setEntityVersion_iff.trans ⟨.versioned said, ?_⟩
      rintro (removal | ⟨-, unversioned⟩ | ⟨-, changes⟩ | ⟨given, -, -⟩)
      · exact absurd removal removes
      · cases versioned.symm.trans unversioned
      · exact changes
      · cases said.symm.trans given
  | some body =>
    have object : body.isObject := (Option.filter_eq_some_iff.mp said).2
    rw [adoptAnswer_of_isObject removes object, exists_mergeEntity]
    simp only [Document.isEntity_withGivenVersion]
    constructor
    · rintro ⟨id, entity, changes⟩
      exact .described said entity changes
    · rintro (removal | ⟨plain, -⟩ | ⟨plain, -⟩ | ⟨given, entity, changes⟩)
      · exact absurd removal removes
      · cases said.symm.trans plain
      · cases said.symm.trans plain
      · cases said.symm.trans given
        exact ⟨_, entity, changes⟩

/-- Where the local copies are entities, an answer can be written down exactly when it is
about a removal, or has no object as its body, or has an entity there. -/
theorem absorbs_iff (kept : ∀ key row, store.entity? key = some row →
      ∃ document, store.document? key = some document ∧ ∃ id, document.IsEntity id)
    (ordered : ∀ body, response.entity? = some body → body.Ascends) :
    store.Absorbs sent response ↔
      sent.kind = .delete ∨ ∀ body, response.entity? = some body → ∃ id, body.IsEntity id := by
  have copy (key : EntityKey) : store.CanChange key fun document => document := by
    cases found : store.entity? key with
    | none => exact .inl found
    | some row => exact .inr (kept key row found)
  constructor
  · rintro (removes | ⟨plain, -⟩ | ⟨plain, -⟩ | ⟨given, entity, -⟩)
    · exact .inl removes
    · exact .inr fun body given => by cases plain.symm.trans given
    · exact .inr fun body given => by cases plain.symm.trans given
    · refine .inr fun body other => ?_
      cases given.symm.trans other
      exact ⟨_, entity⟩
  · rintro (removes | described)
    · exact .removal removes
    · cases said : response.entity? with
      | none => exact .versioned said (copy _)
      | some body =>
        obtain ⟨id, entity⟩ := described body said
        refine .described said entity ?_
        rcases copy ⟨sent.table, id⟩ with absent | ⟨older, held, other, olderEntity⟩
        · exact .inl absent
        · refine .inr ⟨older, held, id, ?_⟩
          exact Document.IsEntity.overlay olderEntity
            (Document.isEntity_withGivenVersion.mpr entity) (ordered body said).withGivenVersion

/-! ### What becomes of the operation -/

/-- The success of an operation that is as it was sent is adopted by the store, or not, as
`adoptAnswer` tells. -/
theorem completePush_of_same (found : store.operation? sent.id = some current)
    (same : current.revision = sent.revision) :
    store.completePush sent body? header now =
      (store.adoptAnswer sent body? (answeredVersion body? header)).map fun adopted =>
        (.settled, adopted.removeOperation sent.id) := by
  unfold completePush
  simp only [found, same, ne_eq, not_true_eq_false, if_false]
  cases store.adoptAnswer sent body? (answeredVersion body? header) <;> rfl

/-- An identity that a queue has given up is never found again, since the store `Descends`. -/
theorem operation?_eq_none_of_leads {later : Store} (sound : store.QueueSound)
    (queued : current ∈ store.queue) (call : Step store next)
    (gone : next.operation? current.id = none) (leads : Relation.ReflTransGen Step next later) :
    later.operation? current.id = none := by
  obtain ⟨laterSound, descends⟩ := descends_of_leads leads (call.queueSound sound)
  have handedOut := (call.descends sound).handedOut (sound.handedOut queued)
  cases held : later.operation? current.id with
  | none => rfl
  | some row =>
    obtain ⟨present, found, -⟩ :=
      descends.operation? (call.queueSound sound) laterSound handedOut held
    cases gone.symm.trans found

/-- A success settles an operation that is still as it was sent, and whatever calls follow, the
operation is never queued again, exactly if the store `Absorbs` the answer: if it can write down
what the answer says. If it cannot, nothing is written at all: the operation stays queued to be
sent again, and is reported as failed under the status of the success. -/
theorem settled_iff_absorbs (reachable : store.Reachable)
    (found : store.operation? sent.id = some current) (same : current.revision = sent.revision)
    (success : response.isSuccess) (policy : Option ConflictPolicy) (now : Instant) :
    firstVerdict policy sent (.ok response) = .conclude (.ofAnswer (.ok response)) ∧
      (store.Absorbs sent response → ∃ next,
        store.conclude sent (.ofAnswer (.ok response)) now = (none, next) ∧
          ∀ later, Relation.ReflTransGen Step next later → later.operation? sent.id = none) ∧
      (¬ store.Absorbs sent response → ∃ fault : SyncError,
        store.conclude sent (.ofAnswer (.ok response)) now =
          (some ⟨some response.status,
            "pushed, but the local store rejected the result: " ++ fault.message, none⟩, store)) := by
  have unconflicted : response.isConflict = false := by
    simp only [Response.isSuccess, Bool.and_eq_true, decide_eq_true_eq] at success
    simp only [Response.isConflict, Bool.or_eq_false_iff, beq_eq_false_iff_ne]
    omega
  have concluded : Conclusion.ofAnswer (.ok response) =
      .accepted response.status response.entity? response.version := by
    simp only [Conclusion.ofAnswer, success, if_true, Response.entity?]
  have completes : store.completePush sent response.entity? response.version now =
      (store.adoptAnswer sent response.entity? response.givenVersion).map fun adopted =>
        (.settled, adopted.removeOperation sent.id) := completePush_of_same found same
  refine ⟨?_, fun absorbs => ?_, fun refuses => ?_⟩
  · cases policy with
    | none => rfl
    | some policy => simp [firstVerdict, resolutionOf, unconflicted]
  · obtain ⟨adopted, adopts⟩ := exists_adoptAnswer.mpr absorbs
    rw [adopts] at completes
    obtain ⟨queued, named⟩ := mem_of_operation? found
    refine ⟨adopted.removeOperation sent.id, ?_, fun later leads => ?_⟩
    · unfold conclude
      rw [concluded]
      dsimp only
      rw [completes]
      rfl
    · rw [← named] at completes leads ⊢
      refine operation?_eq_none_of_leads reachable.queueSound queued (.pushed completes) ?_ leads
      exact operation?_eq_none.mpr fun row remains => (mem_removeOperation.mp remains).2
  · cases adopts : store.adoptAnswer sent response.entity? response.givenVersion with
    | ok adopted => exact absurd (exists_adoptAnswer.mp ⟨adopted, adopts⟩) refuses
    | error fault =>
      rw [adopts] at completes
      refine ⟨.ofStore fault, ?_⟩
      unfold conclude
      rw [concluded]
      dsimp only
      rw [completes]
      rfl

namespace Stray

/-- A success whose body is an object but no entity. -/
def acknowledgement : Response := ⟨201, none, some (.object [("result", .text "ok")])⟩

/-- A success that says nothing. -/
def bare : Response := ⟨204, none, none⟩

theorem not_absorbs_acknowledgement : ¬ created.Absorbs first acknowledgement := by
  have unnamed : ¬ ∃ id, (Document.object [("result", .text "ok")]).IsEntity id := by
    rintro ⟨id, metadata, usable, -⟩
    cases usable
  rintro (removes | ⟨plain, -⟩ | ⟨plain, -⟩ | ⟨given, entity, -⟩)
  · cases removes
  · cases plain
  · cases plain
  · cases given
    exact unnamed ⟨_, entity⟩

end Stray

/-- One creation is settled by an answer that says nothing. The other one is carried out by
the remote too, but stays queued. -/
theorem settled_iff_absorbs_acknowledged :
    (∃ next, Stray.created.conclude Stray.second (.ofAnswer (.ok Stray.bare)) ⟨0, 0⟩ =
        (none, next) ∧
      ∀ later, Relation.ReflTransGen Step next later →
        later.operation? Stray.second.id = none) ∧
    ∃ fault : SyncError,
      Stray.created.conclude Stray.first (.ofAnswer (.ok Stray.acknowledgement)) ⟨0, 0⟩ =
        (some ⟨some 201,
          "pushed, but the local store rejected the result: " ++ fault.message, none⟩,
          Stray.created) ∧
      Stray.first ∈ Stray.created.listOpen [] := by
  have secondFound : Stray.created.operation? Stray.second.id = some Stray.second := rfl
  have firstFound : Stray.created.operation? Stray.first.id = some Stray.first := rfl
  have bare : Stray.bare.isSuccess := rfl
  have acknowledged : Stray.acknowledgement.isSuccess := rfl
  obtain ⟨-, settles, -⟩ :=
    settled_iff_absorbs Stray.reachable_created secondFound rfl bare none ⟨0, 0⟩
  obtain ⟨-, -, refuses⟩ :=
    settled_iff_absorbs Stray.reachable_created firstFound rfl acknowledged none ⟨0, 0⟩
  obtain ⟨fault, refused⟩ := refuses Stray.not_absorbs_acknowledgement
  exact ⟨settles (.silent rfl rfl), fault, refused,
    List.mem_filter.mpr ⟨List.mem_cons_self .., rfl⟩⟩

end Store

end OfflineSync
