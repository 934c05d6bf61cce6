import Mathlib.Logic.Function.Iterate
import OfflineSync.Proofs.Sync.OutboxAgreement
import OfflineSync.Proofs.Sync.RemoteEntity

/-!
# Agreement with the remote

An entity is the same on the device and the remote (`Store.Agrees`) if the document read
of the local copy is the document that the remote holds. Between the requests about it,
the local copy is what it was at first, or was written from what the remote holds
(`Store.Stands`), unless an open operation sends it (`Store.Mirrors`). Once the remote has
done what was asked, the device owes it the settlement of the answer: the entity is
`Store.Outstanding`, and then `Store.Settled` again whatever edits came in between.

A copy that was written is read as `Document.reprinted` tells. The two sides agree on what
was pushed as far as the reader gives it back.
-/

namespace OfflineSync

/-- Whether the reader gives back every field of a document but its version, when the value
has been printed and read some times. -/
def Document.GivesBackAfter (times : Nat) (document : Document) : Prop :=
  ∀ name value, name ≠ EntityMetadata.versionField → document.field? name = some value →
    Document.reprinted^[times] value = value

/-- What the remote would hold if its document were printed and read. -/
def Held.reread (held : Held) : Held :=
  { held with document := held.document.reprinted }

/-- An entity on both sides: the local copy, and what the remote holds. -/
structure Sides where
  copy : Option EntityRow
  held : Option Held

/-- An entity of the store, beside what the remote holds. -/
def Store.sides (store : Store) (key : EntityKey) (held : Option Held) : Sides :=
  ⟨store.entity? key, held⟩

/-- Whether an entity is the same document on both sides, or is missing on both. The
document of the device is what is read of the local copy. -/
def Store.Agrees (store : Store) (key : EntityKey) : Option Held → Prop
  | none => store.entity? key = none
  | some held => store.document? key = some held.document

/-- Whether the local copy of an entity was written from what the remote holds, in text and columns
(`IsCopy`), or both are missing. -/
def Store.HoldsCopy (store : Store) (key : EntityKey) : Option Held → Prop
  | none => store.entity? key = none
  | some held => ∃ row, store.entity? key = some row ∧ row.IsCopy held.document key.id

/-- How an entity with nothing queued stands on the two sides, given how it stood at first. -/
inductive Store.Stands (first : Sides) (store : Store) (key : EntityKey) (held : Option Held) :
    Prop where
  | unchanged (same : store.sides key held = first) (agrees : store.Agrees key held) :
      Stands first store key held
  | copied (copies : store.HoldsCopy key held) : Stands first store key held

/-- Each time that a version is set on a copy, its other fields are printed and read. -/
theorem Document.Becomes.exists_readings {document copy : Document}
    (becomes : document.Becomes copy) (object : document.isObject) :
    ∃ times, ∀ name, name ≠ EntityMetadata.versionField →
      copy.field? name = (document.field? name).map Document.reprinted^[times] := by
  induction becomes with
  | refl => exact ⟨0, fun name other => by simp⟩
  | @versioned copy earlier value inductionHypothesis =>
    obtain ⟨times, reread⟩ := inductionHypothesis
    have copyObject : copy.reprinted.isObject := by
      simp [earlier.isObject, object]
    refine ⟨times + 1, fun name other => ?_⟩
    rw [Document.field?_setField copyObject, if_neg other.symm, Document.field?_reprinted,
      reread name other, Option.map_map, ← Function.iterate_succ']

variable {store next : Store} {key : EntityKey} {held : Option Held} {sent row : Operation}
  {first : Sides}

/-- An operation that the copy `Mirrors` can be sent. -/
theorem Store.Mirrors.sends (mirrors : store.Mirrors key sent) (belongs : sent.isFor key.table key.id) :
    sent.Sends key := by
  refine ⟨belongs, fun keeps => ?_⟩
  cases mirrors with
  | removed deletes absent => exact absurd deletes keeps
  | held _ payload read entity becomes found isCopy => exact ⟨_, _, payload, read, entity⟩

namespace Store

/-- What holds of an entity while no effect of a request awaits its settlement: the local copy is
what it was at first or what the remote holds (`Stands`), or what an open operation sends. Only an
entity that the remote does not hold is to be created. -/
structure Settled (first : Sides) (store : Store) (key : EntityKey) (held : Option Held) :
    Prop where
  stands : store.openOperation? key.table key.id = none → store.Stands first key held
  mirrors : ∀ row, store.openOperation? key.table key.id = some row → store.Mirrors key row
  creates : ∀ row, store.openOperation? key.table key.id = some row → row.kind = .add → held = none

/-- What holds of an entity while the remote has done what an operation asked and the
device has yet to learn it. -/
structure Outstanding (store : Store) (key : EntityKey) : Prop where
  absent : store.openOperation? key.table key.id = none → store.entity? key = none
  mirrors : ∀ row, store.openOperation? key.table key.id = some row → store.Mirrors key row

/-- An entity with nothing queued is settled by how it stands on the two sides. -/
theorem Settled.of_free (free : store.openOperation? key.table key.id = none)
    (stands : store.Stands first key held) : store.Settled first key held := by
  constructor
  · exact fun _ => stands
  · intro row opens
    cases free.symm.trans opens
  · intro row opens
    cases free.symm.trans opens

/-- An entity with an operation queued is settled where that is mirrored, and creates
nothing that the remote holds. -/
theorem Settled.of_open (opens : store.openOperation? key.table key.id = some row)
    (mirrors : store.Mirrors key row) (creates : row.kind = .add → held = none) :
    store.Settled first key held := by
  constructor
  · intro free
    cases free.symm.trans opens
  · intro other found
    cases opens.symm.trans found
    exact mirrors
  · intro other found
    cases opens.symm.trans found
    exact creates

/-- An entity with nothing queued that is missing on the device is missing on the remote. -/
theorem Stands.absent (stands : store.Stands first key held) (absent : store.entity? key = none) :
    held = none := by
  cases held with
  | none => rfl
  | some held =>
    cases stands with
    | unchanged same agrees => cases (document?_eq_none absent).symm.trans agrees
    | copied copies =>
      obtain ⟨row, found, -⟩ := copies
      cases absent.symm.trans found

/-- An edit keeps an entity `Settled`. -/
theorem Settled.edited (settled : store.Settled first key held) (edited : store.Edited key next) :
    next.Settled first key held := by
  cases edited with
  | queued found mirrors created =>
    refine .of_open found mirrors fun creates => ?_
    rcases created creates with ⟨free, absent⟩ | ⟨present, earlier, creates⟩
    · exact (settled.stands free).absent absent
    · exact settled.creates present earlier creates
  | cancelled free absent found creates =>
    refine .of_free free (.copied ?_)
    rw [settled.creates _ found creates]
    exact absent

/-- Behind an edit, the entity may await the settlement of an effect. -/
theorem Edited.outstanding (edited : store.Edited key next) : next.Outstanding key := by
  cases edited with
  | queued found mirrors created =>
    constructor
    · intro free
      cases free.symm.trans found
    · intro row opens
      cases found.symm.trans opens
      exact mirrors
  | cancelled free absent found creates =>
    constructor
    · exact fun _ => absent
    · intro row opens
      cases free.symm.trans opens

variable {newest : Option Mutation} {body : Option Document}

/-- A settled entity awaits the settlement of a success. Only behind an undone creation
is nothing queued for it, and then there is none. -/
theorem Settled.outstanding (settled : store.Settled first key held)
    (inFlight : store.InFlight sent newest) (belongs : sent.isFor key.table key.id)
    (creates : sent.kind = .add → held = none) :
    store.Outstanding key := by
  obtain ⟨table, itemId⟩ := Operation.isFor_iff.mp belongs
  refine ⟨fun free => ?_, settled.mirrors⟩
  have creation := inFlight.creates_of_free (by rw [table, itemId, free])
  have stands := settled.stands free
  rw [creates creation] at stands
  cases stands with
  | unchanged same agrees => exact agrees
  | copied copies => exact copies

/-- What a rebase (`Rebases`) leaves of an entity is settled. -/
theorem Rebases.settled {edit : Mutation} {current : Operation} {version : Option String}
    (rebases : store.Rebases sent edit current version next) (sound : store.QueueSound)
    (belongs : sent.isFor key.table key.id) (applied : sent.Applied key body held)
    (mirrors : next.Mirrors key (current.rebase sent.kind version)) :
    next.Settled first key held := by
  obtain ⟨table, itemId⟩ := Operation.isFor_iff.mp belongs
  have opens := rebases.openOperation? sound
  rw [table, itemId] at opens
  refine .of_open opens mirrors fun creates => ?_
  cases applied with
  | removed deletes => rfl
  | stored keeps => exact absurd creates (rebasedKind_ne_add keeps)

/-- The operation that is queued for an entity can be rebased while an effect is `Outstanding`. -/
theorem Outstanding.exists_rebase (outstanding : store.Outstanding key)
    (opens : store.openOperation? key.table key.id = some row) (kind : OperationKind)
    (version : Option String) :
    ∃ next, store.rebase row kind version = .ok next ∧ next.Mirrors key (row.rebase kind version) :=
  (outstanding.mirrors row opens).exists_rebase (mem_of_openOperation? opens).2.1 kind version

/-- The success of an operation that is as it was sent settles its entity. -/
theorem Outstanding.settles (outstanding : store.Outstanding key) (sound : store.QueueSound)
    (belongs : sent.isFor key.table key.id) (applied : sent.Applied key body held)
    (found : store.operation? sent.id = some sent) (isOpen : sent.isOpen)
    (header : Option String) (now : Instant) :
    ∃ settlement next, store.completePush sent body header now = .ok (settlement, next) ∧
      next.Settled first key held := by
  obtain ⟨table, itemId⟩ := Operation.isFor_iff.mp belongs
  have queued := (mem_of_operation? found).1
  have opens : store.openOperation? key.table key.id = some sent :=
    sound.openOperation?_eq_some.mpr ⟨queued, belongs, isOpen⟩
  have settled {adopted : Store} (adopts : store.adoptAnswer sent body (answeredVersion body header) =
      .ok adopted) (copies : adopted.HoldsCopy key held) :
      (adopted.removeOperation sent.id).Settled first key held := by
    have differs := differs_adoptAnswer adopts
    have free : (adopted.removeOperation sent.id).openOperation? key.table key.id = none := by
      rw [(differs.queueSound sound).openOperation?_removeOperation (differs.queue ▸ queued) isOpen,
        if_pos belongs]
    refine .of_free free (.copied ?_)
    cases held <;> exact copies
  cases applied with
  | removed deletes =>
    have adopts : store.adoptAnswer sent none (answeredVersion none header) =
        .ok (store.removeEntity key) := by
      simp [adoptAnswer, deletes, table, itemId]
    refine ⟨_, _, completePush_eq_settled found rfl adopts, settled adopts ?_⟩
    change (store.removeEntity key).entity? key = none
    simp
  | stored keeps payload read entity =>
    obtain ⟨adopted, row, adopts, copied⟩ :=
      (outstanding.mirrors sent opens).exists_adoptAnswer belongs keeps payload read _
    exact ⟨_, _, completePush_eq_settled found rfl adopts, settled adopts ⟨row, copied⟩⟩

/-- The success of an operation in flight settles its entity, whatever edits were made
meanwhile. -/
theorem Outstanding.completes (outstanding : store.Outstanding key)
    (inFlight : store.InFlight sent newest) (belongs : sent.isFor key.table key.id)
    (applied : sent.Applied key body held) (header : Option String) (now : Instant) :
    ∃ settlement next, store.completePush sent body header now = .ok (settlement, next) ∧
      next.Settled first key held := by
  obtain ⟨table, itemId⟩ := Operation.isFor_iff.mp belongs
  have sound := inFlight.sound
  cases inFlight.standing with
  | untouched found isOpen => exact outstanding.settles sound belongs applied found isOpen header now
  | @merged current edit found same newer kind carries =>
    have opens := sound.openOperation?_of_sameEntity (mem_of_operation? found).1 carries.isOpen same
    rw [table, itemId] at opens
    obtain ⟨next, rebased, mirrors⟩ :=
      outstanding.exists_rebase opens sent.kind (answeredVersion body header)
    have changed : current.revision ≠ sent.revision := (Int.ne_of_lt newer).symm
    obtain ⟨edit, -, rebases⟩ := inFlight.rebases found changed rebased
    exact ⟨_, _, completePush_eq_rebased found changed rebased,
      rebases.settled sound belongs applied mirrors⟩
  | @renewed current edit creates gone found carries =>
    have opens := found
    rw [table, itemId] at opens
    obtain ⟨next, rebased, mirrors⟩ :=
      outstanding.exists_rebase opens sent.kind (answeredVersion body header)
    obtain ⟨edit, -, rebases⟩ := inFlight.rebases_renewed gone creates found rebased
    exact ⟨_, _, completePush_eq_recreated gone creates found rebased,
      rebases.settled sound belongs applied mirrors⟩
  | withdrawn creates gone free =>
    have opens := openOperation?_followUpDelete free (answeredVersion body header) now
    rw [table, itemId] at opens free
    refine ⟨_, _, completePush_eq_undone gone creates (by rw [table, itemId, free]), ?_⟩
    exact .of_open opens (.removed rfl (outstanding.absent free)) nofun

/-- To note a failure keeps a queue sound. -/
theorem QueueSound.noteFailure (sound : store.QueueSound) (sent : Operation) (failure : PushFailure)
    (now : Instant) : (store.noteFailure sent failure now).QueueSound := by
  unfold Store.noteFailure
  split
  · rename_i marked next noted
    exact (recordsFailure_of_recordFailure noted).queueSound sound
  · exact sound

/-- A failure marks an operation that is as it was sent, and changes nothing else. -/
theorem Settled.noteFailure (settled : store.Settled first key held)
    (inFlight : store.InFlight sent newest) (belongs : sent.isFor key.table key.id)
    (failure : PushFailure) (now : Instant) :
    (store.noteFailure sent failure now).Settled first key held := by
  unfold Store.noteFailure
  cases noted : store.recordFailure sent (failure.status.map Int.ofNat) failure.message now with
  | error fault => exact settled
  | ok result =>
    obtain ⟨marked, next⟩ := result
    have records := recordsFailure_of_recordFailure noted
    have sound := records.queueSound inFlight.sound
    cases records with
    | unmarked changed => exact settled
    | @marked current found same alone =>
      obtain ⟨untouched, isOpen⟩ := inFlight.untouched found same
      subst untouched
      have queued := (mem_of_operation? found).1
      have before := inFlight.sound.openOperation?_eq_some.mpr ⟨queued, belongs, isOpen⟩
      have after := sound.openOperation?_eq_some.mpr
        ⟨mem_updateOperation.mpr ⟨current, queued, if_pos (beq_self_eq_true current.id)⟩, belongs, rfl⟩
      refine .of_open after ?_ (settled.creates current before)
      cases settled.mirrors current before with
      | removed deletes absent => exact .removed deletes absent
      | held keeps payload read entity becomes copied isCopy =>
        exact .held keeps payload read entity becomes copied isCopy

/-! ### What is read on the device -/

/-- Whether the local copy of an entity is what an operation of it sends, printed and read
some times, apart from the version. Printed and read no time, it would be `Presents`. -/
inductive PresentsReread (store : Store) (row : Operation) (times : Nat) : Prop where
  | removed (deletes : row.kind = .delete) (absent : store.entity? (keyOf row) = none) :
      PresentsReread store row times
  | held {text : String} {document copy : Document} (keeps : row.kind ≠ .delete)
      (payload : row.payload = some text) (read : Document.read text = some document)
      (held : store.document? (keyOf row) = some copy)
      (objects : document.isObject ∧ copy.isObject)
      (reread : ∀ name, name ≠ EntityMetadata.versionField →
        copy.field? name = (document.field? name).map Document.reprinted^[times]) :
      PresentsReread store row times

/-- The two sides agree (`Agrees`) exactly on what is the same on both sides. -/
theorem Agrees.of_sides {other : Option Held} (agrees : store.Agrees key held)
    (same : next.sides key other = store.sides key held) : next.Agrees key other := by
  obtain ⟨copy, rfl⟩ := Sides.mk.inj same
  cases other with
  | none => exact copy.trans agrees
  | some held =>
    change (next.entity? key).bind _ = _
    rw [copy]
    exact agrees

/-- A copy that was written from what the remote holds is read as that is `reprinted`. -/
theorem HoldsCopy.agrees (copies : store.HoldsCopy key held) :
    store.Agrees key (held.map Held.reread) := by
  cases held with
  | none => exact copies
  | some held =>
    obtain ⟨row, found, isCopy⟩ := copies
    exact document?_of_read found isCopy.read_text

/-- An entity with nothing queued is the same document on both sides exactly if it is as it
was at first, or the reader gives back what the remote holds. -/
theorem Stands.agrees_iff {start : Store} {given : Option Held} (agreed : start.Agrees key given)
    (stands : store.Stands (start.sides key given) key held) :
    store.Agrees key held ↔ store.sides key held = start.sides key given ∨
      ∀ present, held = some present → present.document.reprinted = present.document := by
  constructor
  · intro agrees
    cases stands with
    | unchanged same _ => exact .inl same
    | copied copies =>
      refine .inr fun present holds => ?_
      subst holds
      exact Option.some.inj (copies.agrees.symm.trans agrees)
  · rintro (same | back)
    · exact agreed.of_sides same
    · cases stands with
      | unchanged _ agrees => exact agrees
      | copied copies =>
        cases held with
        | none => exact copies
        | some present =>
          have reread : store.document? key = some present.document.reprinted := copies.agrees
          rwa [back present rfl] at reread

/-- A mirrored operation is what the local copy shows, printed and read for each version that
the copy was given, and once more where it is read. -/
theorem Mirrors.exists_presentsReread (mirrors : store.Mirrors (keyOf row) row) :
    ∃ times, 0 < times ∧ store.PresentsReread row times := by
  cases mirrors with
  | removed deletes absent => exact ⟨1, Nat.one_pos, .removed deletes absent⟩
  | @held stored text document copy keeps payload read entity becomes found isCopy =>
    have object := entity.isObject
    have held : store.document? (keyOf row) = some copy.reprinted :=
      document?_of_read found isCopy.read_text
    obtain ⟨times, reread⟩ := becomes.exists_readings object
    refine ⟨times + 1, Nat.succ_pos times, .held keeps payload read held ⟨object, ?_⟩ ?_⟩
    · simp [becomes.isObject, object]
    · intro name other
      rw [Document.field?_reprinted, reread name other, Option.map_map,
        ← Function.iterate_succ']

/-- A local copy that was printed and read some times is what the operation sends, exactly if the
reader then gives it back (`GivesBackAfter`). -/
theorem PresentsReread.presents_iff {times : Nat} (presents : store.PresentsReread row times) :
    store.Presents row ↔ row.Carrying (Document.GivesBackAfter times) := by
  cases presents with
  | removed deletes absent =>
    constructor
    · exact fun _ keeps => absurd deletes keeps
    · exact fun _ => .removed deletes absent
  | @held text document copy keeps payload read held objects reread =>
    constructor
    · rintro presented _ sentText sentDocument sends readSent name value other found
      cases payload.symm.trans sends
      cases read.symm.trans readSent
      cases presented with
      | removed deletes absent => exact absurd deletes keeps
      | held _ shownPayload readShown heldShown _ same =>
        cases payload.symm.trans shownPayload
        cases read.symm.trans readShown
        cases held.symm.trans heldShown
        have shown := (reread name other).symm.trans (same name other)
        rw [found] at shown
        exact Option.some.inj shown
    · intro back
      refine .held keeps payload read held objects fun name other => ?_
      rw [reread name other]
      cases found : document.field? name with
      | none => rfl
      | some value =>
        rw [Option.map_some, back keeps text document payload read name value other found]

end Store

end OfflineSync
