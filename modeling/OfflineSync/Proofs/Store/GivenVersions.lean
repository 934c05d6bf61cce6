import OfflineSync.Proofs.Store.AcceptedAnswers

/-!
# The version that an answer gives

A success gives the version of the entity in its body, or else in its header. It is the version of
the local copy afterwards, with two exceptions. A body may have a version field that is neither a
text nor a number: the field stands in the way of the version of the header (`LosesHeader`), and the
copy has no version then. And where the answer has no object, the copy may be read back as another
entity, to which the version goes.
-/

namespace OfflineSync

open EntityMetadata (versionField versionOf textOrNumber? idOf)

namespace Store

/-- The version of the local copy under a key. -/
def version? (store : Store) (key : EntityKey) : Option String :=
  (store.entity? key).bind EntityRow.version

/-- Whether the version of the header is lost on the local copy of the entity sent. -/
inductive LosesHeader (store : Store) (sent : Operation) : Option Document → String → Prop where
  /-- The body has a version field without a version. -/
  | obstructed {document value : Document} {header : String}
      (present : document.field? versionField = some value) (void : textOrNumber? value = none) :
      LosesHeader store sent (some document) header
  /-- The local copy is read back as another entity, and does not have the version yet. -/
  | diverted {body : Option Document} {header id : String} {document : Document}
      (plain : body.bind Document.fields? = none)
      (copy : store.document? (keyOf sent) = some document) (names : idOf document = .ok id)
      (other : id ≠ sent.itemId) (older : store.version? (keyOf sent) ≠ some header) :
      LosesHeader store sent body header

variable {store next : Store} {sent : Operation} {table id : String} {key : EntityKey}
  {document value : Document} {body : Option Document} {header : Option String} {version : String}
  {row : EntityRow} {now : Instant}

/-! ### Versions of written copies -/

/-- A document written by `putEntity` shows its version. -/
theorem version?_putEntity (names : idOf document = .ok id)
    (written : store.putEntity table document = .ok next) :
    next.version? ⟨table, id⟩ = versionOf document := by
  obtain ⟨metadata, usable, -, found⟩ := entity?_of_putEntity names written
  obtain ⟨-, -, -, -, same, -⟩ := EntityMetadata.ofDocument_eq_ok.mp usable
  rw [version?, found]
  exact same.symm

/-- A remote document that has a version field shows what the field says. -/
theorem version?_mergeEntity (names : idOf document = .ok id) (ascends : document.Ascends)
    (present : document.field? versionField = some value)
    (written : store.mergeEntity table document = .ok next) :
    next.version? ⟨table, id⟩ = textOrNumber? value := by
  obtain ⟨metadata, -, ⟨older, -, placed⟩ | ⟨-, placed⟩⟩ := mergeEntity_eq_ok.mp written
  · rw [version?_putEntity (EntityMetadata.idOf_overlay names ascends) placed, versionOf,
      Document.field?_overlay_of_some ascends present, Option.bind_some]
  · rw [version?_putEntity names placed, versionOf, present, Option.bind_some]

/-- A version that `setEntityVersion` sets on a copy shows, unless the copy is read back as another
entity: then its row stays as it was. -/
theorem version?_setEntityVersion (held : store.entity? key = some row)
    (written : store.setEntityVersion key (some version) = .ok next) :
    ∃ document id, store.document? key = some document ∧ idOf document = .ok id ∧
      (id = key.id → next.version? key = some version) ∧
      (id ≠ key.id → next.version? key = store.version? key) := by
  obtain ⟨present, read, placed⟩ | ⟨absent, -⟩ := setEntityVersion_eq_ok.mp written
  · obtain ⟨metadata, usable, -⟩ := putEntity_eq_ok.mp placed
    obtain ⟨object, identity, -⟩ := EntityMetadata.ofDocument_eq_ok.mp usable
    -- The copy is written under the identity that was read, which the version leaves.
    have names := (EntityMetadata.idOf_setField (by decide)).symm.trans identity
    refine ⟨present.document, metadata.id, document?_eq_some.mpr ⟨present, read, rfl⟩, names,
      fun same => ?_, fun other => ?_⟩
    · have shows := version?_putEntity identity placed
      rw [same] at shows
      rw [shows, versionOf, Document.field?_setField (Document.isObject_setField.symm.trans object),
        if_pos rfl]
      rfl
    · have elsewhere := WritesOnly.putEntity identity placed key fun same => other (by rw [same])
      rw [version?, version?, elsewhere]
  · cases held.symm.trans absent

/-! ### The version of an answer -/

/-- An entity in an answer gives its own version before that of the header. -/
theorem answeredVersion_of_isEntity (entity : document.IsEntity id) :
    answeredVersion (some document) header = (versionOf document).or header := by
  obtain ⟨metadata, usable, -⟩ := entity
  obtain ⟨-, -, -, -, same, -⟩ := EntityMetadata.ofDocument_eq_ok.mp usable
  rw [answeredVersion, Option.bind_some, usable, same]
  rfl

/-- Without an object, `answeredVersion` is the version of the header. -/
theorem answeredVersion_of_plain (plain : body.bind Document.fields? = none) :
    answeredVersion body header = header := by
  cases body with
  | none => rfl
  | some document =>
    have unusable : document.isObject = false := by
      simpa [Document.isObject] using plain
    rw [answeredVersion, Option.bind_some, EntityMetadata.ofDocument, if_pos (by simp [unusable])]
    rfl

/-- Without an object, a body has no version. -/
theorem versionOf_of_plain (plain : body.bind Document.fields? = none) :
    body.bind versionOf = none := by
  cases body with
  | none => rfl
  | some document =>
    cases document with
    | object fields => cases plain
    | null | boolean | number | text | array => rfl

/-- An answer without an object is adopted as one without a body. -/
theorem adoptAnswer_of_plain {version : Option String}
    (plain : body.bind Document.fields? = none) :
    store.adoptAnswer sent body version = store.adoptAnswer sent none version := by
  unfold adoptAnswer
  rw [plain]
  rfl

end Store

/-- The version field of a document that is given a version. -/
theorem Document.field?_withGivenVersion {document : Document} {version : String}
    (object : document.isObject) :
    (document.withGivenVersion (some version)).field? versionField =
      some ((document.field? versionField).getD (.text version)) := by
  change (document.setFieldIfAbsent versionField (.text version)).field? versionField = _
  unfold setFieldIfAbsent
  cases present : document.field? versionField with
  | some value => exact present
  | none => exact (field?_setField object).trans (if_pos rfl)

namespace Store

variable {store next : Store} {sent : Operation} {document : Document} {body : Option Document}
  {header : Option String} {version : String} {row : EntityRow} {now : Instant}

/-- A success that settles the operation sent has adopted the answer, by `adoptAnswer`. -/
theorem adopts_of_settled
    (settled : store.completePush sent body header now = .ok (.settled, next)) :
    ∃ adopted, store.adoptAnswer sent body (answeredVersion body header) = .ok adopted ∧
      ∀ key, next.version? key = adopted.version? key := by
  cases completesPush_of_completePush settled with
  | settled found same adopts => exact ⟨_, adopts, fun _ => rfl⟩

/-- Where an answer that describes the entity sent gives a version, the local copy has what
stands in the version field, or the version of the header where there is no such field. -/
theorem version?_of_described
    (settled : store.completePush sent (some document) header now = .ok (.settled, next))
    (stays : sent.kind ≠ .delete) (entity : document.IsEntity sent.itemId)
    (ascends : document.Ascends) (gives : (versionOf document).or header = some version) :
    next.version? (keyOf sent) =
      textOrNumber? ((document.field? versionField).getD (.text version)) := by
  obtain ⟨adopted, adopts, same⟩ := adopts_of_settled settled
  rw [answeredVersion_of_isEntity entity, gives, adoptAnswer_of_isObject stays entity.isObject] at adopts
  obtain ⟨-, names, -⟩ := Document.IsEntity.iff_fields.mp
    (Document.isEntity_withGivenVersion.mpr entity)
  rw [same]
  exact version?_mergeEntity names ascends.withGivenVersion
    (Document.field?_withGivenVersion entity.isObject) adopts

/-- Where an answer without an object has a version in its header, it is set on the local
copy, as which it shows unless the copy is read back as another entity. -/
theorem version?_of_plain
    (settled : store.completePush sent body (some version) now = .ok (.settled, next))
    (stays : sent.kind ≠ .delete) (plain : body.bind Document.fields? = none)
    (held : store.entity? (keyOf sent) = some row) :
    ∃ document id, store.document? (keyOf sent) = some document ∧ idOf document = .ok id ∧
      (id = sent.itemId → next.version? (keyOf sent) = some version) ∧
      (id ≠ sent.itemId → next.version? (keyOf sent) = store.version? (keyOf sent)) := by
  obtain ⟨adopted, adopts, same⟩ := adopts_of_settled settled
  rw [answeredVersion_of_plain plain, adoptAnswer_of_plain plain, adoptAnswer_none stays] at adopts
  rw [same]
  exact version?_setEntityVersion held adopts

/-- A document with a version field has fields. -/
theorem fields?_ne_none {value : Document} (present : document.field? versionField = some value) :
    document.fields? ≠ none := by
  cases document with
  | object fields => nofun
  | null | boolean | number | text | array => cases present

/-- Without an object in the answer, only a copy that is read back as another entity can lose
the version of the header (`LosesHeader`). -/
theorem shows_iff_of_plain
    (settled : store.completePush sent body header now = .ok (.settled, next))
    (stays : sent.kind ≠ .delete) (plain : body.bind Document.fields? = none)
    (held : store.entity? (keyOf sent) = some row) :
    (∀ version, header = some version → next.version? (keyOf sent) = some version) ↔
      ∀ version, header = some version → ¬ store.LosesHeader sent body version := by
  refine forall_congr' fun version => imp_congr_right ?_
  rintro rfl
  obtain ⟨document, id, copy, names, shows, remains⟩ := version?_of_plain settled stays plain held
  constructor
  · intro given loses
    cases loses with
    | obstructed present void => exact fields?_ne_none present plain
    | diverted _ found named other older =>
      cases copy.symm.trans found
      cases names.symm.trans named
      exact older ((remains other).symm.trans given)
  · intro kept
    by_cases same : id = sent.itemId
    · exact shows same
    · by_contra differs
      rw [remains same] at differs
      exact kept (.diverted plain copy names same differs)

/-- A version field without a version loses the version of the header, as `setFieldIfAbsent` keeps
the field. -/
theorem version?_of_obstructed {value : Document}
    (settled : store.completePush sent (some document) (some version) now = .ok (.settled, next))
    (stays : sent.kind ≠ .delete) (entity : document.IsEntity sent.itemId)
    (ascends : document.Ascends) (present : document.field? versionField = some value)
    (void : textOrNumber? value = none) : next.version? (keyOf sent) = none := by
  have gives : (versionOf document).or (some version) = some version := by
    rw [versionOf, present, Option.bind_some, void, Option.none_or]
  rw [version?_of_described settled stays entity ascends gives, present]
  exact void

/-- Where the answer describes the entity sent, only a version field without a version can
stand in the way of the version that it gives. -/
theorem shows_iff_of_described
    (settled : store.completePush sent (some document) header now = .ok (.settled, next))
    (stays : sent.kind ≠ .delete) (entity : document.IsEntity sent.itemId)
    (ascends : document.Ascends) :
    (∀ version, (versionOf document).or header = some version →
        next.version? (keyOf sent) = some version) ↔
      ∀ version, header = some version → ¬ store.LosesHeader sent (some document) version := by
  constructor
  · rintro given version rfl loses
    cases loses with
    | obstructed present void =>
      have gives : (versionOf document).or (some version) = some version := by
        rw [versionOf, present, Option.bind_some, void, Option.none_or]
      have lost := version?_of_obstructed settled stays entity ascends present void
      cases lost.symm.trans (given version gives)
    | diverted plain =>
      obtain ⟨fields, rfl⟩ := Document.isObject_iff.mp entity.isObject
      cases plain
  · intro kept version gives
    rw [version?_of_described settled stays entity ascends gives]
    cases present : document.field? versionField with
    | none => rfl
    | some value =>
      rw [versionOf, present, Option.bind_some] at gives
      cases void : textOrNumber? value with
      | some own =>
        rw [void] at gives
        exact void.trans gives
      | none =>
        rw [void, Option.none_or] at gives
        exact absurd (.obstructed present void) (kept version gives)

/-- After a success that settles a creation or a replacement, the local copy has the version
that the answer gives (`version?`), in its body or else in its header, exactly unless the store
`LosesHeader`. A version field without a version loses it, even from a copy that had it. -/
theorem given_version_stored_iff
    (settled : store.completePush sent body header now = .ok (.settled, next))
    (stays : sent.kind ≠ .delete) (held : store.entity? (keyOf sent) = some row)
    (inOrder : ∀ document, body = some document → document.Ascends)
    (own : ∀ document, body = some document → document.isObject →
      document.IsEntity sent.itemId) :
    ((∀ version, (body.bind versionOf).or header = some version →
        next.version? (keyOf sent) = some version) ↔
      ∀ version, header = some version → ¬ store.LosesHeader sent body version) ∧
    ∀ document value, body = some document → document.field? versionField = some value →
      textOrNumber? value = none → header.isSome → next.version? (keyOf sent) = none := by
  cases plain : body.bind Document.fields? with
  | none =>
    rw [versionOf_of_plain plain, Option.none_or]
    refine ⟨shows_iff_of_plain settled stays plain held, ?_⟩
    rintro document value rfl present
    exact absurd plain (fields?_ne_none present)
  | some fields =>
    obtain ⟨document, rfl, object⟩ := Option.bind_eq_some_iff.mp plain
    have entity : document.IsEntity sent.itemId :=
      own document rfl (Document.isObject_iff.mpr ⟨fields, Document.fields?_eq_some.mp object⟩)
    refine ⟨shows_iff_of_described settled stays entity (inOrder document rfl), ?_⟩
    rintro _ value ⟨⟩ present void tagged
    obtain ⟨version, rfl⟩ := Option.isSome_iff_exists.mp tagged
    exact version?_of_obstructed settled stays entity (inOrder document rfl) present void

namespace Stray

/-- An answer to the creation of the first entity, with a version field that is null. -/
def unversioned : Document :=
  (entity "1").setField EntityMetadata.versionField .null

/-- The store after that answer. -/
def versionless : Store where
  entities := [(⟨"todo", "1"⟩, .ofDocument unversioned ⟨"1", none, none, false⟩), copy "2"]
  queue := [second]
  watermarks := []
  lastSequence := 2

theorem completePush_unversioned :
    created.completePush first (some unversioned) (some "v1") ⟨0, 0⟩ = .ok (.settled, versionless) := by
  have read : created.readEntity ⟨"todo", "1"⟩ =
      .ok (some ⟨"todo", "1", entity "1", none, none⟩) :=
    readEntity_eq_ok_some.mpr ⟨_, rfl, EntityRow.read_eq_ok.mpr ⟨_, read_render_entity "1", rfl⟩⟩
  have adopts : created.adoptAnswer first (some unversioned) (some "v1") =
      .ok { versionless with queue := [first, second] } :=
    mergeEntity_eq_ok.mpr
      ⟨⟨"1", none, none, false⟩, rfl, .inl ⟨_, read, putEntity_eq_ok.mpr ⟨_, rfl, rfl⟩⟩⟩
  exact completePush_eq_settled rfl rfl adopts

end Stray

/-- The version of the header is dropped because the body has a version field that is null. -/
theorem given_version_stored_iff_null :
    Stray.created.completePush Stray.first (some Stray.unversioned) (some "v1") ⟨0, 0⟩ =
        .ok (.settled, Stray.versionless) ∧
      Stray.created.LosesHeader Stray.first (some Stray.unversioned) "v1" ∧
      Stray.versionless.version? (keyOf Stray.first) = none := by
  have inOrder : ∀ document, some Stray.unversioned = some document → document.Ascends := by
    rintro _ ⟨⟩ fields ⟨⟩
    exact List.pairwise_pair.mpr (by decide)
  have own : ∀ document, some Stray.unversioned = some document → document.isObject →
      document.IsEntity Stray.first.itemId := by
    rintro _ ⟨⟩ -
    exact ⟨⟨"1", none, none, false⟩, rfl, rfl⟩
  obtain ⟨-, lost⟩ := given_version_stored_iff Stray.completePush_unversioned nofun rfl inOrder own
  exact ⟨Stray.completePush_unversioned, .obstructed rfl rfl,
    lost Stray.unversioned .null rfl rfl rfl rfl⟩

end Store

end OfflineSync
