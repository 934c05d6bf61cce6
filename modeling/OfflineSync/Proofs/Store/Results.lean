import OfflineSync.Proofs.Document.Fields
import OfflineSync.Proofs.Store.Rebasing

/-!
# Edits made in flight survive

Whatever the result of a push is, an `Outcome`, it loses no edit that was made while it was awaited.
The operation that carries the edits stays queued as it was, `Operation.Continues`, and a creation
that was undone is followed by its removal. The local copy is written anew where its version
changes, and then keeps each field that the reader gives back, `KeepsDocument`.
-/

namespace OfflineSync

/-- Whether an operation carries what another one carried, and awaits a push. -/
structure Operation.Continues (kept row : Operation) : Prop where
  id : kept.id = row.id
  sequence : kept.sequence = row.sequence
  payload : kept.payload = row.payload
  revision : kept.revision = row.revision
  pending : kept.state = .pending

/-- Whether the reader gives back every field of a document but its version. -/
def Document.GivesBack (document : Document) : Prop :=
  ∀ name value, name ≠ EntityMetadata.versionField → document.field? name = some value →
    value.reprinted = value

namespace Store

/-- The results that end the exchange about an operation. -/
inductive Outcome where
  /-- The remote has done what it was asked. -/
  | accepted (body : Option Document) (header : Option String)
  /-- The remote refused, and its entity is to replace the local copy. -/
  | conceded (body : Option Document)
  /-- The operation failed. -/
  | refused (status : Option Int) (reason : String)

/-- Writes the result about an operation that was sent, by the function of the store that its
`Outcome` names. -/
def receive (store : Store) (sent : Operation) (outcome : Outcome) (now : Instant) :
    Except StoreError Store :=
  match outcome with
  | .accepted body header => (store.completePush sent body header now).map Prod.snd
  | .conceded body => (store.settleWithServer sent body now).map Prod.snd
  | .refused status reason => (store.recordFailure sent status reason now).map Prod.snd

/-- The open operations of an entity. -/
def openRows (store : Store) (table itemId : String) : List Operation :=
  store.queue.filter fun operation => operation.isFor table itemId && operation.isOpen

/-- The document of the local copy under a key, as it is read. -/
def document? (store : Store) (key : EntityKey) : Option Document :=
  (store.entity? key).bind fun row => Document.read row.text

variable {store next before during after : Store} {sent row current : Operation}
  {newest : Mutation} {version : Option String} {now : Instant} {table itemId : String}

/-- Where there is no local copy, no document is read. -/
theorem document?_eq_none {key : EntityKey} (absent : store.entity? key = none) :
    store.document? key = none := by
  rw [document?, absent]
  rfl

/-- What is read of a local copy is the document that its text denotes. -/
theorem document?_of_read {key : EntityKey} {copy : EntityRow} {document : Document}
    (found : store.entity? key = some copy) (denotes : Document.read copy.text = some document) :
    store.document? key = some document := by
  rw [document?, found]
  exact denotes

/-- A sound queue holds one open operation of an entity at most. -/
theorem QueueSound.openRows_eq (sound : store.QueueSound) :
    store.openRows table itemId = (store.openOperation? table itemId).toList := by
  have apart : (store.openRows table itemId).Pairwise fun earlier later =>
      earlier.isOpen → later.isOpen → ¬ Operation.SameEntity earlier later := sound.apart.filter _
  have chosen : ∀ row ∈ store.openRows table itemId, row.isFor table itemId ∧ row.isOpen := by
    intro row member
    simpa using (List.mem_filter.mp member).2
  have first : (store.openRows table itemId).head? = store.openOperation? table itemId :=
    List.head?_filter ..
  rw [← first]
  generalize store.openRows table itemId = rows at *
  match rows with
  | [] => rfl
  | [row] => rfl
  | row :: other :: rest =>
    obtain ⟨belongs, isOpen⟩ := chosen row (by simp)
    obtain ⟨otherBelongs, otherOpen⟩ := chosen other (by simp)
    have differ := (List.pairwise_cons.mp apart).1 other (by simp)
    exact absurd (Operation.SameEntity.of_isFor belongs otherBelongs) (differ isOpen otherOpen)

/-! ### The operation -/

/-- The open operation of an entity that was edited in flight `Carries` the newest edit. -/
theorem InFlight.carries (inFlight : store.InFlight sent (some newest))
    (found : store.openOperation? sent.table sent.itemId = some row) : row.Carries newest := by
  cases inFlight.standing with
  | merged finds same newer kind carries =>
    have opens := inFlight.sound.openOperation?_of_sameEntity (mem_of_operation? finds).1
      carries.isOpen same
    cases found.symm.trans opens
    exact carries
  | withdrawn creates gone free => cases free.symm.trans found
  | renewed creates gone finds carries =>
    cases found.symm.trans finds
    exact carries

/-- An operation that was edited in flight is not found as it was sent. -/
theorem InFlight.revision_ne (inFlight : store.InFlight sent (some newest))
    (found : store.operation? sent.id = some current) : current.revision ≠ sent.revision := by
  cases inFlight.standing with
  | merged finds same newer kind carries =>
    cases found.symm.trans finds
    exact (Int.ne_of_lt newer).symm
  | withdrawn creates gone free => cases gone.symm.trans found
  | renewed creates gone finds carries => cases gone.symm.trans found

/-- Only a creation can have left the queue in flight. -/
theorem InFlight.creates (inFlight : store.InFlight sent (some newest))
    (gone : store.operation? sent.id = none) : sent.kind = .add := by
  cases inFlight.standing with
  | merged finds same newer kind carries => cases gone.symm.trans finds
  | withdrawn creates _ free => exact creates
  | renewed creates _ finds carries => exact creates

/-- A success rebases the newest edit, or queues the removal of what was undone. -/
theorem InFlight.accepted {body : Option Document} {settlement : Settlement}
    (inFlight : store.InFlight sent (some newest))
    (completes : store.CompletesPush sent body version now settlement next) :
    (∃ current, store.Rebases sent newest current version next) ∨
      store.openOperation? sent.table sent.itemId = none ∧
        next = store.appendOperation
          (Operation.ofMutation (followUpDelete sent version) (store.lastSequence + 1) now) := by
  cases completes with
  | rebased found newer rebased =>
    obtain ⟨edit, same, rebases⟩ := inFlight.rebases found newer rebased
    cases same
    exact .inl ⟨_, rebases⟩
  | settled found same adopts => exact absurd same (inFlight.revision_ne found)
  | vanished gone keeps => exact absurd (inFlight.creates gone) keeps
  | recreated gone creates found rebased =>
    obtain ⟨edit, same, rebases⟩ := inFlight.rebases_renewed gone creates found rebased
    cases same
    exact .inl ⟨_, rebases⟩
  | undone gone creates free => exact .inr ⟨free, rfl⟩

/-- A conflict rebases the newest edit, or finds the creation undone. -/
theorem InFlight.conceded {document : Document} {metadata : EntityMetadata} {settlement : Settlement}
    (inFlight : store.InFlight sent (some newest))
    (settles : store.SettlesWithServer sent document metadata now settlement next) :
    (∃ current version, store.Rebases sent newest current version next) ∨ next = store := by
  cases settles with
  | rebased found newer rebased =>
    obtain ⟨edit, same, rebases⟩ := inFlight.rebases found newer rebased
    cases same
    exact .inl ⟨_, _, rebases⟩
  | removed found same deleted => exact absurd same (inFlight.revision_ne found)
  | adopted found same live merges => exact absurd same (inFlight.revision_ne found)
  | vanished gone => exact .inr rfl

/-- A failure is noted, by `recordFailure`, on no operation that was edited in flight. -/
theorem InFlight.refused {status : Option Int} {reason : String} {marked : Bool}
    (inFlight : store.InFlight sent (some newest))
    (records : store.RecordsFailure sent status reason now marked next) : next = store := by
  cases records with
  | unmarked changed => rfl
  | marked found same alone => exact absurd same (inFlight.revision_ne found)

/-- What a result that is written has found of the operation sent. -/
inductive Receives (store : Store) (sent : Operation) (now : Instant) : Outcome → Store → Prop where
  | accepted {body : Option Document} {header : Option String} {settlement : Settlement}
      {next : Store}
      (completes : store.CompletesPush sent body (answeredVersion body header) now settlement
        next) :
      Receives store sent now (.accepted body header) next
  | conceded {body : Option Document} {document : Document} {metadata : EntityMetadata}
      {settlement : Settlement} {next : Store}
      (described : conflictingEntity sent body = .ok (document, metadata))
      (settles : store.SettlesWithServer sent document metadata now settlement next) :
      Receives store sent now (.conceded body) next
  | refused {status : Option Int} {reason : String} {marked : Bool} {next : Store}
      (records : store.RecordsFailure sent status reason now marked next) :
      Receives store sent now (.refused status reason) next

/-- A result that was written had one of the outcomes listed in `Receives`. -/
theorem receives_of_receive {outcome : Outcome}
    (received : store.receive sent outcome now = .ok next) :
    store.Receives sent now outcome next := by
  unfold receive at received
  cases outcome with
  | accepted body header =>
    obtain ⟨⟨settlement, _⟩, completed, rfl⟩ := map_eq_ok.mp received
    exact .accepted (completesPush_of_completePush completed)
  | conceded body =>
    obtain ⟨⟨settlement, _⟩, settled, rfl⟩ := map_eq_ok.mp received
    obtain ⟨document, metadata, described, settles⟩ := settlesWithServer_of_settleWithServer settled
    exact .conceded described settles
  | refused status reason =>
    obtain ⟨⟨marked, _⟩, noted, rfl⟩ := map_eq_ok.mp received
    exact .refused (recordsFailure_of_recordFailure noted)

/-- What is received of an operation that was edited in flight rebases the newest edit,
or changes nothing, or is the success of a creation that was undone. -/
theorem InFlight.received {outcome : Outcome} (inFlight : store.InFlight sent (some newest))
    (received : store.receive sent outcome now = .ok next) :
    (∃ current version, store.Rebases sent newest current version next) ∨
      ((∀ body header, outcome ≠ .accepted body header) ∧ next = store) ∨
      ∃ body header, outcome = .accepted body header ∧
        store.openOperation? sent.table sent.itemId = none ∧
        next = store.appendOperation (Operation.ofMutation
          (followUpDelete sent (answeredVersion body header)) (store.lastSequence + 1) now) := by
  cases receives_of_receive received with
  | @accepted body header _ _ completes =>
    rcases inFlight.accepted completes with ⟨current, rebases⟩ | ⟨free, appended⟩
    · exact .inl ⟨current, _, rebases⟩
    · exact .inr (.inr ⟨body, header, rfl, free, appended⟩)
  | conceded described settles =>
    rcases inFlight.conceded settles with rebases | same
    · exact .inl rebases
    · exact .inr (.inl ⟨by simp, same⟩)
  | refused records => exact .inr (.inl ⟨by simp, inFlight.refused records⟩)

/-- To `receive` a result is one call on the store. -/
theorem step_of_receive {outcome : Outcome} (received : store.receive sent outcome now = .ok next) :
    Step store next := by
  unfold receive at received
  cases outcome with
  | accepted body header =>
    obtain ⟨⟨settlement, _⟩, completed, rfl⟩ := map_eq_ok.mp received
    exact .pushed completed
  | conceded body =>
    obtain ⟨⟨settlement, _⟩, settled, rfl⟩ := map_eq_ok.mp received
    exact .conceded settled
  | refused status reason =>
    obtain ⟨⟨marked, _⟩, noted, rfl⟩ := map_eq_ok.mp received
    exact .failed noted

/-- What a rebase leaves queued `Continues` what it found. -/
theorem Rebases.continues (rebases : store.Rebases sent newest current version next)
    (sound : store.QueueSound) :
    ∃ kept, next.openOperation? sent.table sent.itemId = some kept ∧ kept.Continues current :=
  ⟨_, rebases.openOperation? sound, rfl, rfl, rfl, rfl, rebases.carries.pending⟩

/-! ### The local copy -/

/-- A version is set by `setEntityVersion` on a copy that can be read, unless its identity puts it
elsewhere. -/
theorem entity?_of_setEntityVersion {key : EntityKey}
    (written : store.setEntityVersion key version = .ok next) :
    next.entity? key = store.entity? key ∨
      ∃ document metadata, store.document? key = some document ∧ document.isObject ∧
        next.entity? key = some (.ofDocument
          (document.setField EntityMetadata.versionField (.optionalText version)) metadata) := by
  rcases setEntityVersion_eq_ok.mp written with ⟨present, read, placed⟩ | ⟨-, rfl⟩
  · obtain ⟨row, found, read⟩ := readEntity_eq_ok_some.mp read
    obtain ⟨document, denoted, rfl⟩ := EntityRow.read_eq_ok.mp read
    obtain ⟨metadata, usable, rfl⟩ := putEntity_eq_ok.mp placed
    rw [entity?_withCopy]
    split
    · refine .inr ⟨document, metadata, document?_of_read found denoted, ?_, rfl⟩
      unfold EntityMetadata.ofDocument at usable
      rw [Document.isObject_setField] at usable
      by_contra other
      simp [other] at usable
    · exact .inl rfl
  · exact .inl rfl

/-- Whether a local copy is as it was, apart from the version in its document. -/
def KeepsDocument (before after : Store) (key : EntityKey) : Prop :=
  ((after.document? key).isSome ↔ (before.document? key).isSome) ∧
    ∀ name, name ≠ EntityMetadata.versionField →
      (after.document? key).bind (·.field? name) = (before.document? key).bind (·.field? name)

/-- A copy that is written with its version set `KeepsDocument` exactly where the reader gives back
its fields (`GivesBack`). -/
theorem keepsDocument_iff_givesBack {key : EntityKey} {document : Document}
    {metadata : EntityMetadata} (held : before.document? key = some document)
    (object : document.isObject)
    (written : after.entity? key = some (.ofDocument
      (document.setField EntityMetadata.versionField (.optionalText version)) metadata)) :
    KeepsDocument before after key ↔ document.GivesBack := by
  obtain ⟨row, -, denotes⟩ := Option.bind_eq_some_iff.mp held
  have readable : (document.setField EntityMetadata.versionField
      (.optionalText version)).Readable Document.depthLimit :=
    (Document.readable_of_read denotes).setField (Document.readable_optionalText version)
  have after_document : after.document? key = some
      (document.setField EntityMetadata.versionField (.optionalText version)).reprinted :=
    document?_of_read written readable.read_render
  have fields (name : String) (other : name ≠ EntityMetadata.versionField) :
      (document.setField EntityMetadata.versionField (.optionalText version)).reprinted.field? name =
        (document.field? name).map Document.reprinted := by
    simp [object, other.symm]
  unfold KeepsDocument
  rw [held, after_document]
  simp only [Option.isSome_some, true_and, Option.bind_some]
  constructor
  · intro keeps name value other found
    have same := keeps name other
    rw [fields name other, found, Option.map_some, Option.some.injEq] at same
    exact same
  · intro givesBack name other
    rw [fields name other]
    cases found : document.field? name with
    | none => rfl
    | some value => rw [Option.map_some, givesBack name value other found]

/-- A copy whose version is set keeps its document exactly if the copy stays as it is, or
the reader gives its fields back. -/
theorem keepsDocument_of_setEntityVersion {key : EntityKey}
    (written : before.setEntityVersion key version = .ok after) :
    KeepsDocument before after key ↔
      after.entity? key = before.entity? key ∨
        ∀ document, before.document? key = some document → document.GivesBack := by
  have unchanged (same : after.entity? key = before.entity? key) : KeepsDocument before after key := by
    unfold KeepsDocument document?
    rw [same]
    exact ⟨Iff.rfl, fun _ _ => rfl⟩
  rcases entity?_of_setEntityVersion written with same | ⟨document, metadata, held, object, placed⟩
  · exact iff_of_true (unchanged same) (.inl same)
  · constructor
    · intro keeps
      refine .inr fun other found => ?_
      cases held.symm.trans found
      exact (keepsDocument_iff_givesBack held object placed).mp keeps
    · rintro (same | givesBack)
      · exact unchanged same
      · exact (keepsDocument_iff_givesBack held object placed).mpr (givesBack document held)

/-- A rebase keeps the local copy of the entity sent, or writes it with its version set. -/
theorem Rebases.keepsDocument (rebases : before.Rebases sent newest current version after) :
    KeepsDocument before after ⟨sent.table, sent.itemId⟩ ↔
      after.entity? ⟨sent.table, sent.itemId⟩ = before.entity? ⟨sent.table, sent.itemId⟩ ∨
        ∀ document, before.document? ⟨sent.table, sent.itemId⟩ = some document →
          document.GivesBack := by
  obtain ⟨-, belongs, -⟩ := mem_of_openOperation? rebases.found
  obtain ⟨table, itemId⟩ := Operation.isFor_iff.mp belongs
  rw [← table, ← itemId]
  rcases rebase_eq_ok.mp rebases.rebased with ⟨-, rfl⟩ | ⟨-, written⟩
  · exact iff_of_true ⟨Iff.rfl, fun _ _ => rfl⟩ (.inl rfl)
  · have kept := keepsDocument_of_setEntityVersion written
    exact kept

variable {tables : List String} {edits : List (Mutation × Instant)}
  {outcome : Outcome}

/-- No edit that was made in flight is lost to a result. Where an operation is open, it stays
so and `Continues`: it carries what it carried, and the local copy keeps its document apart from
the version (`KeepsDocument`) exactly if the copy stays as it is or the reader gives its fields
back. Where none is open, the creation sent was undone: its success queues a removal, and any
other result changes nothing. -/
theorem edits_survive (reachable : Reachable before) (listed : sent ∈ before.listOpen tables)
    (edited : edits ≠ []) (concerns : ∀ edit ∈ edits, edit.1.Concerns sent)
    (recorded : before.recordAll edits = .ok during)
    (received : during.receive sent outcome now = .ok after) :
    (∀ row, during.openOperation? sent.table sent.itemId = some row →
      ∃ kept, after.openRows sent.table sent.itemId = [kept] ∧ kept.Continues row ∧
        (KeepsDocument during after ⟨sent.table, sent.itemId⟩ ↔
          after.entity? ⟨sent.table, sent.itemId⟩ = during.entity? ⟨sent.table, sent.itemId⟩ ∨
            ∀ document, during.document? ⟨sent.table, sent.itemId⟩ = some document →
              document.GivesBack)) ∧
    (during.openOperation? sent.table sent.itemId = none →
      (∀ body header, outcome = .accepted body header →
        ∃ row, after.openRows sent.table sent.itemId = [row] ∧ row.kind = .delete) ∧
      ((∀ body header, outcome ≠ .accepted body header) → after = during)) := by
  have inFlight := reachable.inFlight listed concerns recorded
  obtain ⟨newest, last⟩ := Option.isSome_iff_exists.mp
    (show (edits.getLast?.map Prod.fst).isSome by simpa using edited)
  rw [last] at inFlight
  have sound : after.QueueSound := (step_of_receive received).queueSound inFlight.sound
  rw [sound.openRows_eq]
  rcases inFlight.received received with ⟨current, version, rebases⟩ | ⟨other, rfl⟩ |
      ⟨body, header, rfl, free, rfl⟩
  · obtain ⟨kept, opens, continues⟩ := rebases.continues inFlight.sound
    constructor
    · intro row found
      cases rebases.found.symm.trans found
      exact ⟨kept, by rw [opens]; rfl, continues, rebases.keepsDocument⟩
    · intro free
      cases free.symm.trans rebases.found
  · constructor
    · intro row found
      refine ⟨row, by rw [found]; rfl, ⟨rfl, rfl, rfl, rfl, (inFlight.carries found).pending⟩, ?_⟩
      exact iff_of_true ⟨Iff.rfl, fun _ _ => rfl⟩ (.inl rfl)
    · exact fun free => ⟨fun body header same => absurd same (other body header), fun _ => rfl⟩
  · constructor
    · intro row found
      cases free.symm.trans found
    · refine fun _ => ⟨fun _ _ _ => ⟨_, by rw [openOperation?_followUpDelete free _ _]; rfl, rfl⟩, ?_⟩
      intro other
      exact absurd rfl (other body header)

namespace Drift

/-- Two neighbours at the 24th power of ten. -/
def number (upper : Bool) : Binary64 :=
  ⟨false, 8195638656616210 + upper.toNat, 27, by cases upper <;> decide⟩

/-- Each neighbour is read as the other. -/
theorem reread_number (upper : Bool) : (number upper).reread = number (!upper) := by
  revert upper
  decide +kernel

/-- An entity with the number. -/
def document (upper : Bool) : Document :=
  .object [("id", .text "1"), ("x", .number (.float (number upper)))]

/-- An edit of the entity. -/
def edit (kind : OperationKind) : Mutation where
  kind
  table := "todo"
  itemId := "1"
  item := (document false).render
  before := none
  entityVersion := none

/-- The creation of the entity, as it is queued. -/
def operation : Operation := .ofMutation (edit .add) 1 ⟨0, 0⟩

/-- The store in which the entity is created, with what is queued for it. -/
def created (operation : Operation) : Store where
  entities := [(⟨"todo", "1"⟩, .ofDocument (document true) ⟨"1", none, none, false⟩)]
  queue := [operation]
  watermarks := []
  lastSequence := 1

theorem entity?_created (operation : Operation) : (created operation).entity? ⟨"todo", "1"⟩ =
    some (.ofDocument (document true) ⟨"1", none, none, false⟩) := by
  simp [entity?, created, KeyedList.get?]

theorem read_render_document (upper : Bool) :
    Document.read (document upper).render = some (document !upper) := by
  have names : compare "id" "x" = .lt := by decide
  have readable : (document upper).Readable Document.depthLimit := by
    refine .object (by decide) (List.pairwise_pair.mpr names) ?_
    exact List.forall_mem_cons.mpr ⟨.text, List.forall_mem_singleton.mpr (.number trivial)⟩
  rw [readable.read_render]
  simp [document, Document.reprinted, Document.reprintedFields, Number.reprinted, reread_number]

theorem usable_document (upper : Bool) :
    EntityMetadata.ofDocument (document upper) = .ok ⟨"1", none, none, false⟩ := by
  rfl

/-- The reader does not give back the number of either entity. -/
theorem not_givesBack (upper : Bool) : ¬ (document upper).GivesBack := by
  intro givesBack
  have back := givesBack "x" (.number (.float (number upper))) (by decide) rfl
  simp only [Document.reprinted, Number.reprinted, reread_number, Document.number.injEq,
    Number.float.injEq] at back
  revert back
  cases upper <;> decide

theorem recorded_creation : empty.recordLocalMutation (edit .add) ⟨0, 0⟩ =
    .ok (.created operation, created operation) := by
  have applied : (empty.appendOperation operation).applyEdit (edit .add) = .ok (created operation) := by
    have read : Document.read (edit .add).item = some (document true) := read_render_document false
    unfold applyEdit
    rw [read]
    exact addEntity_eq_ok.mpr ⟨_, usable_document true, rfl, rfl⟩
  exact recordLocalMutation_eq rfl applied

theorem reachable_created : Reachable (created operation) :=
  .step .empty (.edited recorded_creation)

theorem recorded_edit : (created operation).recordLocalMutation (edit .replace) ⟨0, 0⟩ =
    .ok (.coalesced (operation.merge .add (edit .replace)),
      created (operation.merge .add (edit .replace))) := by
  have applied : (created (operation.merge .add (edit .replace))).applyEdit (edit .replace) =
      .ok (created (operation.merge .add (edit .replace))) := by
    have read : Document.read (edit .replace).item = some (document true) := read_render_document false
    unfold applyEdit
    rw [read]
    exact putEntity_eq_ok.mpr ⟨_, usable_document true, rfl⟩
  exact recordLocalMutation_eq rfl applied

theorem recorded_replace : (created operation).recordAll [(edit .replace, ⟨0, 0⟩)] =
    .ok (created (operation.merge .add (edit .replace))) := by
  rw [recordAll_cons recorded_edit]
  rfl

theorem listed_operation : operation ∈ (created operation).listOpen [] :=
  List.mem_filter.mpr ⟨List.mem_cons_self .., rfl⟩

/-- The store after the success of the creation: the local copy was read, and written
with its version. -/
def pushed : Store where
  entities := [(⟨"todo", "1"⟩, .ofDocument
    ((document false).setField EntityMetadata.versionField (.text "v1")) ⟨"1", none, some "v1", false⟩)]
  queue := [(operation.merge .add (edit .replace)).rebase .add (some "v1")]
  watermarks := []
  lastSequence := 1

theorem completed_creation :
    (created (operation.merge .add (edit .replace))).completePush operation none (some "v1")
      ⟨0, 0⟩ = .ok (.rebased, pushed) := by
  have read : (created (operation.merge .add (edit .replace))).readEntity ⟨"todo", "1"⟩ =
      .ok (some ⟨"todo", "1", document false, none, none⟩) :=
    readEntity_eq_ok_some.mpr ⟨_, rfl, EntityRow.read_eq_ok.mpr ⟨_, read_render_document true, rfl⟩⟩
  have usable : EntityMetadata.ofDocument
      ((document false).setField EntityMetadata.versionField (.text "v1")) =
        .ok ⟨"1", none, some "v1", false⟩ := by
    rfl
  have rebased : (created (operation.merge .add (edit .replace))).rebase
      (operation.merge .add (edit .replace)) .add (some "v1") = .ok pushed := by
    refine rebase_eq_ok.mpr (.inr ⟨by decide, ?_⟩)
    exact setEntityVersion_eq_ok.mpr (.inl ⟨_, read, putEntity_eq_ok.mpr ⟨_, usable, rfl⟩⟩)
  have found : (created (operation.merge .add (edit .replace))).operation? operation.id =
      some (operation.merge .add (edit .replace)) :=
    List.find?_cons_of_pos (beq_self_eq_true operation.id)
  have newer : (operation.merge .add (edit .replace)).revision ≠ operation.revision := by decide
  have kind : operation.kind = .add := rfl
  have answered : answeredVersion none (some "v1") = some "v1" := rfl
  rw [← kind, ← answered] at rebased
  exact completePush_eq_rebased found newer rebased

theorem received_accepted :
    (created (operation.merge .add (edit .replace))).receive operation (.accepted none (some "v1"))
      ⟨0, 0⟩ = .ok pushed := by
  unfold receive
  dsimp only
  rw [completed_creation]
  rfl

end Drift

/-- The success of a creation changes a number of an entity that was edited in flight. -/
theorem edits_survive_drift :
    (Drift.created Drift.operation).recordAll [(Drift.edit .replace, ⟨0, 0⟩)] =
        .ok (Drift.created (Drift.operation.merge .add (Drift.edit .replace))) ∧
      (Drift.created (Drift.operation.merge .add (Drift.edit .replace))).receive Drift.operation
        (.accepted none (some "v1")) ⟨0, 0⟩ = .ok Drift.pushed ∧
      ¬ KeepsDocument (Drift.created (Drift.operation.merge .add (Drift.edit .replace))) Drift.pushed
        ⟨"todo", "1"⟩ := by
  refine ⟨Drift.recorded_replace, Drift.received_accepted, fun keeps => ?_⟩
  have survive := edits_survive Drift.reachable_created Drift.listed_operation
    (List.cons_ne_nil _ _) (List.forall_mem_singleton.mpr ⟨rfl, rfl⟩) Drift.recorded_replace Drift.received_accepted
  have found : (Drift.created (Drift.operation.merge .add (Drift.edit .replace))).openOperation?
      Drift.operation.table Drift.operation.itemId =
        some (Drift.operation.merge .add (Drift.edit .replace)) :=
    List.find?_cons_of_pos (by decide)
  obtain ⟨kept, -, -, exactly⟩ := survive.1 _ found
  have held : (Drift.created (Drift.operation.merge .add (Drift.edit .replace))).document?
      ⟨"todo", "1"⟩ = some (Drift.document false) :=
    Option.bind_eq_some_iff.mpr ⟨_, Drift.entity?_created _, Drift.read_render_document true⟩
  rcases exactly.mp keeps with same | givesBack
  · have version : (Drift.pushed.entity? ⟨"todo", "1"⟩).bind EntityRow.version = some "v1" := rfl
    have unchanged : Drift.pushed.entity? ⟨"todo", "1"⟩ =
      (Drift.created (Drift.operation.merge .add (Drift.edit .replace))).entity? ⟨"todo", "1"⟩ := same
    rw [unchanged, Drift.entity?_created] at version
    cases version
  · exact Drift.not_givesBack false (givesBack _ held)

end Store

end OfflineSync
