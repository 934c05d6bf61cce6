import OfflineSync.Proofs.Sync.Sessions

/-!
# The life of a queued operation

A run of calls is followed by its events: the edits with what they did to the queue, the operations
listed and their results, pulls and purges (`Runs`). An operation that is queued stays in its row,
and `Evolves` by each event. It counts the edits that are merged into it, and nothing else; a
conceded conflict about it closes it, and nothing else; and once it is closed, nothing touches it
until it is purged.
-/

namespace OfflineSync

/-- Whether an edit was merged into the operation with an identity. -/
def EnqueueOutcome.mergesInto (id : String) : EnqueueOutcome → Bool
  | .coalesced row => row.id == id
  | .created _ | .removed _ => false

namespace Session

/-! ### Events -/

/-- What a call on a session did. -/
inductive Event where
  | edited (outcome : EnqueueOutcome)
  | enqueued (outcome : EnqueueOutcome)
  | listed (sent : Operation)
  | pushed (sent : Operation) (settlement : Settlement)
  | conceded (sent : Operation) (settlement : Settlement)
  | failed (sent : Operation) (marked : Bool)
  | abandoned
  | pulled (table : String)
  | cleared
  | purged (table : String) (discard : Bool)
  | reset (tokenKey : String)
  deriving DecidableEq

namespace Event

/-- Whether an edit was merged into the operation with an identity. -/
def mergesInto (id : String) : Event → Bool
  | .edited outcome | .enqueued outcome => outcome.mergesInto id
  | _ => false

/-- Whether the operation with an identity was listed for a push. -/
def lists (id : String) : Event → Bool
  | .listed sent => sent.id == id
  | _ => false

/-- Whether a conflict about the operation with an identity was settled in favour of the
remote. -/
def closes (id : String) : Event → Bool
  | .conceded sent .settled => sent.id == id
  | _ => false

/-- Whether the operation with an identity was listed, or an edit merged into it. -/
def Touches (event : Event) (id : String) : Prop :=
  event.mergesInto id ∨ event.lists id

/-- Whether an event lists no operation, and merges no edit. -/
def Silent (event : Event) : Prop :=
  ∀ id, event.mergesInto id = false ∧ event.lists id = false

theorem Silent.not_touches {event : Event} (silent : event.Silent) (id : String) :
    ¬ event.Touches id := by
  simp [Touches, silent id]

/-- Whether the completed operations of a table were removed. -/
def discards (table : String) : Event → Bool
  | .cleared => true
  | .purged other true => other == table
  | _ => false

end Event

/-- The calls that lead from one session to the next, each with its event. -/
inductive Happens (session : Session) : Event → Session → Prop where
  | edited {mutation : Mutation} {now : Instant} {outcome : EnqueueOutcome} {next : Store}
      (recorded : session.store.recordLocalMutation mutation now = .ok (outcome, next)) :
      Happens session (.edited outcome) { session with store := next }
  | enqueued {mutation : Mutation} {now : Instant} {outcome : EnqueueOutcome} {next : Store}
      (queued : session.store.enqueue mutation now = .ok (outcome, next)) :
      Happens session (.enqueued outcome) { session with store := next }
  | listed {sent : Operation} {tables : List String} (isListed : sent ∈ session.store.listOpen tables)
      (fresh : ∀ other ∈ session.awaited, other.id ≠ sent.id) :
      Happens session (.listed sent) { session with awaited := session.awaited ++ [sent] }
  | pushed {sent : Operation} {body : Option Document} {header : Option String} {now : Instant}
      {settlement : Settlement} {next : Store} (awaits : sent ∈ session.awaited)
      (completed : session.store.completePush sent body header now = .ok (settlement, next)) :
      Happens session (.pushed sent settlement) (session.received sent next)
  | conceded {sent : Operation} {body : Option Document} {now : Instant}
      {settlement : Settlement} {next : Store} (awaits : sent ∈ session.awaited)
      (settled : session.store.settleWithServer sent body now = .ok (settlement, next)) :
      Happens session (.conceded sent settlement) (session.received sent next)
  | failed {sent : Operation} {status : Option Int} {reason : String} {now : Instant}
      {marked : Bool} {next : Store} (awaits : sent ∈ session.awaited)
      (noted : session.store.recordFailure sent status reason now = .ok (marked, next)) :
      Happens session (.failed sent marked) (session.received sent next)
  | abandoned {remaining : List Operation} (fewer : remaining.Sublist session.awaited) :
      Happens session .abandoned { session with awaited := remaining }
  | pulled (table tokenKey : String) (rows : List Document) :
      Happens session (.pulled table)
        { session with store := (session.store.applyPage table tokenKey rows).2 }
  | cleared : Happens session .cleared { session with store := session.store.purgeCompleted.2 }
  | purged (table : String) (discard : Bool) :
      Happens session (.purged table discard)
        { session with store := (session.store.purgeTable table discard).2 }
  | reset (tokenKey : String) :
      Happens session (.reset tokenKey)
        { session with store := (session.store.resetWatermark tokenKey).2 }

/-- The events on the way from one session to a later one. -/
inductive Runs (start : Session) : List Event → Session → Prop where
  | refl : Runs start [] start
  | step {events : List Event} {session next : Session} {event : Event}
      (earlier : Runs start events session) (happens : Happens session event next) :
      Runs start (events ++ [event]) next

variable {start session next : Session} {event : Event} {events : List Event}

/-- Every call has an event, and an event belongs to a call: `Happens` adds to a `Step` what
it did. -/
theorem step_iff_happens : Step session next ↔ ∃ event, Happens session event next := by
  constructor
  · intro step
    cases step with
    | edited recorded => exact ⟨_, .edited recorded⟩
    | enqueued queued => exact ⟨_, .enqueued queued⟩
    | listed isListed fresh => exact ⟨_, .listed isListed fresh⟩
    | pushed awaits completed => exact ⟨_, .pushed awaits completed⟩
    | conceded awaits settled => exact ⟨_, .conceded awaits settled⟩
    | failed awaits noted => exact ⟨_, .failed awaits noted⟩
    | abandoned fewer => exact ⟨_, .abandoned fewer⟩
    | pulled table tokenKey rows => exact ⟨_, .pulled table tokenKey rows⟩
    | cleared => exact ⟨_, .cleared⟩
    | purged table discard => exact ⟨_, .purged table discard⟩
    | reset tokenKey => exact ⟨_, .reset tokenKey⟩
  · rintro ⟨event, happens⟩
    cases happens with
    | edited recorded => exact .edited recorded
    | enqueued queued => exact .enqueued queued
    | listed isListed fresh => exact .listed isListed fresh
    | pushed awaits completed => exact .pushed awaits completed
    | conceded awaits settled => exact .conceded awaits settled
    | failed awaits noted => exact .failed awaits noted
    | abandoned fewer => exact .abandoned fewer
    | pulled table tokenKey rows => exact .pulled table tokenKey rows
    | cleared => exact .cleared
    | purged table discard => exact .purged table discard
    | reset tokenKey => exact .reset tokenKey

/-- A run leads from a reachable session to reachable ones. -/
theorem Reachable.runs (reachable : Reachable start) (runs : Runs start events session) :
    Reachable session := by
  induction runs with
  | refl => exact reachable
  | step earlier happens inductionHypothesis =>
    exact inductionHypothesis.step (step_iff_happens.mpr ⟨_, happens⟩)

/-! ### One event -/

/-- What an event does to an operation in its row (`Operation.SameRow`). -/
structure Follows (event : Event) (row kept : Operation) : Prop where
  same : Operation.SameRow row kept
  revision : kept.revision = row.revision + if event.mergesInto row.id then 1 else 0
  closed : row.state = .completed → kept = row
  closes : kept.state = .completed → row.state = .completed ∨ event.closes row.id

/-- What an event does to the queue. Each operation that is queued afterwards follows one
that was, or is new and open. Nothing but open operations is listed or merged into, and an
operation that was closed stays unless the event discards it. -/
structure Evolves (before : Store) (event : Event) (after : Store) : Prop where
  counter : before.lastSequence ≤ after.lastSequence
  rows : ∀ kept ∈ after.queue, (∃ row ∈ before.queue, Follows event row kept) ∨
    before.lastSequence < kept.sequence ∧ kept.isOpen
  touches : ∀ id, event.Touches id → ∃ row ∈ before.queue, row.id = id ∧ row.isOpen
  keeps : ∀ row ∈ before.queue, row.state = .completed →
    row ∈ after.queue ∨ event.discards row.table

variable {before after middle : Store} {row present operation : Operation}

/-- An operation that is open is not closed. -/
theorem not_completed_of_isOpen (isOpen : row.isOpen) : row.state ≠ .completed := by
  simpa [Operation.isOpen] using isOpen

theorem Follows.refl (quiet : event.mergesInto row.id = false) : Follows event row row :=
  ⟨.refl row, by simp [quiet], fun _ => rfl, .inl⟩

/-- An event that touches no operation is merged into none. -/
theorem Event.not_mergesInto {id : String} (silent : ¬ event.Touches id) :
    event.mergesInto id = false :=
  Bool.eq_false_iff.mpr fun merges => silent (.inl merges)

namespace Evolves

/-- Only the queue and the counter matter. -/
theorem congr (evolves : Evolves before event middle) (queue : after.queue = middle.queue)
    (counter : after.lastSequence = middle.lastSequence) : Evolves before event after :=
  ⟨counter ▸ evolves.counter, queue ▸ evolves.rows, evolves.touches, queue ▸ evolves.keeps⟩

/-- Operations are selected, and closed ones kept unless the event discards them. -/
theorem of_subset (counter : before.lastSequence ≤ after.lastSequence)
    (subset : ∀ row ∈ after.queue, row ∈ before.queue) (silent : event.Silent)
    (keeps : ∀ row ∈ before.queue, row.state = .completed →
      row ∈ after.queue ∨ event.discards row.table) : Evolves before event after where
  counter := counter
  rows := fun row queued =>
    .inl ⟨row, subset row queued, .refl ((silent row.id).1)⟩
  touches := fun id touched => absurd touched (silent.not_touches id)
  keeps := keeps

/-- The queue stays as it is. -/
theorem of_same (queue : after.queue = before.queue)
    (counter : after.lastSequence = before.lastSequence) (silent : event.Silent) :
    Evolves before event after :=
  of_subset (Int.le_of_eq counter.symm) (fun _ => queue ▸ id) silent fun _ queued _ =>
    .inl (queue ▸ queued)

/-- An open operation is listed. -/
theorem of_listed {sent : Operation} (queued : sent ∈ before.queue) (isOpen : sent.isOpen) :
    Evolves before (.listed sent) before where
  counter := Int.le_refl _
  rows := fun row rowQueued => .inl ⟨row, rowQueued, .refl rfl⟩
  touches := by
    rintro id (merged | listed)
    · cases merged
    · exact ⟨sent, queued, eq_of_beq listed, isOpen⟩
  keeps := fun _ rowQueued _ => .inl rowQueued

/-- An open operation with the next number is appended. -/
theorem of_append (number : operation.sequence = before.lastSequence + 1) (isOpen : operation.isOpen)
    (silent : event.Silent) :
    Evolves before event (before.appendOperation operation) where
  counter := by
    simp only [Store.appendOperation]
    omega
  rows := by
    intro row queued
    rcases List.mem_append.mp queued with old | new
    · exact .inl ⟨row, old, .refl ((silent row.id).1)⟩
    · cases List.mem_singleton.mp new
      exact .inr ⟨by omega, isOpen⟩
  touches := fun id touched => absurd touched (silent.not_touches id)
  keeps := fun _ queued _ => .inl (List.mem_append_left _ queued)

/-- An open operation is updated in its row. -/
theorem of_update {change : Operation → Operation} (sound : before.QueueSound)
    (queued : present ∈ before.queue) (isOpen : present.isOpen)
    (follows : Follows event present (change present))
    (only : ∀ id, event.Touches id → id = present.id) :
    Evolves before event (before.updateOperation present.id change) where
  counter := Int.le_refl _
  rows := by
    intro kept keptQueued
    obtain ⟨row, rowQueued, rfl⟩ := Store.mem_updateOperation.mp keptQueued
    by_cases named : row.id = present.id
    · cases sound.eq_of_id rowQueued queued named
      rw [if_pos (beq_self_eq_true _)]
      exact .inl ⟨_, queued, follows⟩
    · rw [if_neg (by simpa using named)]
      exact .inl ⟨row, rowQueued, .refl (Event.not_mergesInto (mt (only row.id) named))⟩
  touches := fun id touched => ⟨present, queued, (only id touched).symm, isOpen⟩
  keeps := by
    intro row rowQueued completed
    have apart : row.id ≠ present.id := by
      intro named
      cases sound.eq_of_id rowQueued queued named
      exact not_completed_of_isOpen isOpen completed
    exact .inl (Store.mem_updateOperation.mpr ⟨row, rowQueued, by simp [apart]⟩)

/-- An open operation is revised and stays open. -/
theorem of_replace (sound : before.QueueSound) (queued : present ∈ before.queue)
    (isOpen : present.isOpen) (revises : operation.Revises present) (stays : operation.isOpen)
    (revision : operation.revision = present.revision + if event.mergesInto present.id then 1 else 0)
    (only : ∀ id, event.Touches id → id = present.id) :
    Evolves before event (before.replaceOperation operation) := by
  have follows : Follows event present operation :=
    ⟨revises.sameRow, revision, fun completed => absurd completed (not_completed_of_isOpen isOpen),
      fun completed => absurd completed (not_completed_of_isOpen stays)⟩
  unfold Store.replaceOperation
  rw [revises.sameRow.id]
  refine of_update sound queued isOpen ?_ only
  rwa [revises]

/-- An open operation is removed. -/
theorem of_remove (sound : before.QueueSound) (queued : present ∈ before.queue)
    (isOpen : present.isOpen) (silent : event.Silent) :
    Evolves before event (before.removeOperation present.id) := by
  refine of_subset (Int.le_refl _) (fun row remains => (Store.mem_removeOperation.mp remains).1)
    silent fun row rowQueued completed => ?_
  refine .inl (Store.mem_removeOperation.mpr ⟨rowQueued, fun named => ?_⟩)
  cases sound.eq_of_id rowQueued queued named
  exact not_completed_of_isOpen isOpen completed

end Evolves

/-! ### Calls -/

section Calls

variable {mutation : Mutation} {now : Instant} {outcome : EnqueueOutcome} {sent : Operation}
  {body : Option Document} {version : Option String} {settlement : Settlement}
  {document : Document} {metadata : EntityMetadata}

/-- A queued edit is merged into an open operation, which counts it (`merge`), cancels one, or
creates one. -/
theorem evolves_of_enqueue (sound : before.QueueSound)
    (accepted : before.enqueue mutation now = .ok (outcome, after))
    (merges : ∀ id, event.mergesInto id = outcome.mergesInto id)
    (unlisted : ∀ id, event.lists id = false) : Evolves before event after := by
  have touched {id : String} : event.Touches id ↔ outcome.mergesInto id := by
    simp [Event.Touches, merges, unlisted]
  rcases Store.enqueue_cases accepted with
    ⟨-, rfl, rfl⟩ | ⟨present, found, ⟨kind, -, rfl, rfl⟩ | ⟨-, rfl, rfl⟩⟩
  · exact .of_append rfl (Operation.isOpen_ofMutation mutation _ now) fun id =>
      ⟨merges id, unlisted id⟩
  · obtain ⟨queued, -, isOpen⟩ := Store.mem_of_openOperation? found
    refine .of_replace sound queued isOpen (present.revises_merge kind mutation) rfl ?_
      fun id touches => (eq_of_beq (touched.mp touches)).symm
    simp [merges, EnqueueOutcome.mergesInto, Operation.merge]
  · obtain ⟨queued, -, isOpen⟩ := Store.mem_of_openOperation? found
    exact .of_remove sound queued isOpen fun id => ⟨merges id, unlisted id⟩

/-- An open operation that is rebased counts no edit, as `Operation.rebase` keeps the
revision. -/
theorem evolves_of_rebase {kind : OperationKind} (sound : before.QueueSound)
    (queued : present ∈ before.queue) (isOpen : present.isOpen)
    (rebased : before.rebase present kind version = .ok after)
    (silent : event.Silent) : Evolves before event after := by
  have differs := Store.differs_rebase rebased
  have replaced : Evolves before event (before.replaceOperation (present.rebase kind version)) := by
    refine .of_replace sound queued isOpen (present.revises_rebase kind version) isOpen ?_
      fun id touches => absurd touches (silent.not_touches id)
    simp [(silent present.id).1, Operation.rebase]
  exact replaced.congr differs.queue differs.lastSequence

/-- The success of an operation that is open (`CompletesPush`), if it is queued, closes nothing. -/
theorem evolves_of_completesPush (sound : before.QueueSound)
    (isOpen : ∀ row, before.operation? sent.id = some row → row.isOpen)
    (completes : before.CompletesPush sent body version now settlement after)
    (silent : event.Silent) : Evolves before event after := by
  cases completes with
  | rebased found newer rebased =>
    exact evolves_of_rebase sound (Store.mem_of_operation? found).1 (isOpen _ found) rebased silent
  | settled found same adopts =>
    obtain ⟨queued, named⟩ := Store.mem_of_operation? found
    have differs := Store.differs_adoptAnswer adopts
    have removed := Evolves.of_remove sound queued (isOpen _ found) silent
    refine removed.congr ?_ differs.lastSequence
    simp [Store.removeOperation, differs.queue, named]
  | vanished gone keeps => exact .of_same rfl rfl silent
  | recreated gone creates found rebased =>
    obtain ⟨queued, -, opens⟩ := Store.mem_of_openOperation? found
    exact evolves_of_rebase sound queued opens rebased silent
  | undone gone creates free => exact .of_append rfl rfl silent

/-- A conflict that is settled in favour of the remote closes the operation sent. -/
theorem evolves_of_settlesWithServer (sound : before.QueueSound)
    (isOpen : ∀ row, before.operation? sent.id = some row → row.isOpen)
    (settles : before.SettlesWithServer sent document metadata now settlement after) :
    Evolves before (.conceded sent settlement) after := by
  have silent {settlement : Settlement} : (Event.conceded sent settlement).Silent :=
    fun _ => ⟨rfl, rfl⟩
  have closes {current : Operation} {copied : Store} (found : before.operation? sent.id = some current)
      (differs : Store.DiffersInCopies before copied) :
      Evolves before (.conceded sent .settled) (copied.markCompleted sent.id now) := by
    obtain ⟨queued, named⟩ := Store.mem_of_operation? found
    have follows : Follows (.conceded sent .settled) current
        { current with state := .completed, lastAttempt := some now } :=
      ⟨⟨rfl, rfl, rfl, rfl, rfl, rfl⟩, (Int.add_zero _).symm,
        fun completed => absurd completed (not_completed_of_isOpen (isOpen _ found)),
        fun _ => .inr (by simp [Event.closes, named])⟩
    have marked : Evolves before (.conceded sent .settled) (before.markCompleted sent.id now) :=
      named ▸ .of_update sound queued (isOpen _ found) follows fun id touches =>
        absurd touches (silent.not_touches id)
    refine marked.congr ?_ differs.lastSequence
    simp [Store.markCompleted, Store.updateOperation, differs.queue]
  cases settles with
  | rebased found newer rebased =>
    exact evolves_of_rebase sound (Store.mem_of_operation? found).1 (isOpen _ found) rebased silent
  | removed found same deleted => exact closes found Store.differs_removeEntity
  | adopted found same live merges => exact closes found (Store.differs_mergeEntity merges)
  | vanished gone => exact .of_same rfl rfl silent

/-- A failure (`RecordsFailure`) is noted on an operation that is open. -/
theorem evolves_of_recordsFailure {status : Option Int} {reason : String} {marked : Bool}
    (sound : before.QueueSound)
    (isOpen : ∀ row, before.operation? sent.id = some row → row.isOpen)
    (records : before.RecordsFailure sent status reason now marked after)
    (silent : event.Silent) : Evolves before event after := by
  cases records with
  | unmarked changed => exact .of_same rfl rfl silent
  | @marked current found same alone =>
    obtain ⟨queued, named⟩ := Store.mem_of_operation? found
    have follows : Follows event current
        { current with
          state := .failed, lastAttempt := some now, lastStatus := status,
          lastError := some reason } :=
      ⟨⟨rfl, rfl, rfl, rfl, rfl, rfl⟩, by simp [(silent current.id).1],
        fun completed => absurd completed (not_completed_of_isOpen (isOpen _ found)), nofun⟩
    exact named ▸ .of_update sound queued (isOpen _ found) follows fun id touches =>
      absurd touches (silent.not_touches id)

/-- Every event has its effect on the queue, and no other: the queue `Evolves`. -/
theorem Happens.evolves (happens : Happens session event next) (sound : Sound session) :
    Evolves session.store event next.store := by
  have isOpen {sent : Operation} (awaits : sent ∈ session.awaited) :=
    (sound.opens sent awaits).isOpen
  cases happens with
  | @edited _ _ outcome _ recorded =>
    obtain ⟨⟨_, queued⟩, enqueued, applied⟩ := bind_eq_ok.mp recorded
    obtain ⟨written, applied, same⟩ := bind_eq_ok.mp applied
    cases same
    have differs := (Store.writesEdit_of_applyEdit applied).differsInCopies
    have evolves : Evolves session.store (.edited outcome) queued :=
      evolves_of_enqueue sound.queue enqueued (fun _ => rfl) fun _ => rfl
    exact evolves.congr differs.queue differs.lastSequence
  | enqueued queued => exact evolves_of_enqueue sound.queue queued (fun _ => rfl) fun _ => rfl
  | listed isListed fresh =>
    obtain ⟨queued, opens⟩ := Store.mem_of_listOpen isListed
    exact .of_listed queued opens
  | pushed awaits completed =>
    exact evolves_of_completesPush sound.queue (isOpen awaits)
      (Store.completesPush_of_completePush completed) fun _ => ⟨rfl, rfl⟩
  | conceded awaits settled =>
    obtain ⟨document, metadata, -, settles⟩ := Store.settlesWithServer_of_settleWithServer settled
    exact evolves_of_settlesWithServer sound.queue (isOpen awaits) settles
  | failed awaits noted =>
    exact evolves_of_recordsFailure sound.queue (isOpen awaits)
      (Store.recordsFailure_of_recordFailure noted) fun _ => ⟨rfl, rfl⟩
  | abandoned fewer => exact .of_same rfl rfl fun _ => ⟨rfl, rfl⟩
  | pulled table tokenKey rows => exact .of_same (by simp) (by simp) fun _ => ⟨rfl, rfl⟩
  | cleared =>
    exact .of_subset (Int.le_refl _) (fun row queued => (List.mem_filter.mp queued).1)
      (fun _ => ⟨rfl, rfl⟩) fun _ _ _ => .inr rfl
  | purged table discard =>
    cases discard with
    | true =>
      refine .of_subset (Int.le_refl _) (fun row queued => (List.mem_filter.mp queued).1)
        (fun _ => ⟨rfl, rfl⟩) fun row queued _ => ?_
      by_cases own : row.table = table
      · exact .inr (by simp [Event.discards, own])
      · exact .inl (List.mem_filter.mpr ⟨queued, by simpa using own⟩)
    | false => exact .of_same rfl rfl fun _ => ⟨rfl, rfl⟩
  | reset tokenKey => exact .of_same rfl rfl fun _ => ⟨rfl, rfl⟩

end Calls

/-! ### Runs -/

/-- What a run does to the queue, event by event. Each operation that is queued afterwards
was queued before or has a later number. It is in its row and counts the edits that were
merged into it; it is closed by a conceded conflict, and stays closed as it is. What was
closed is touched by no event, and stays until one discards it. -/
structure Lives (before : Store) (events : List Event) (after : Store) : Prop where
  counter : before.lastSequence ≤ after.lastSequence
  rows : ∀ kept ∈ after.queue,
    (∃ row ∈ before.queue, Operation.SameRow row kept ∧
      kept.revision = row.revision + events.countP (Event.mergesInto row.id) ∧
      (row.state = .completed → kept = row) ∧
      (kept.state = .completed → row.state = .completed ∨ ∃ event ∈ events, event.closes row.id)) ∨
    before.lastSequence < kept.sequence ∧
      (kept.state = .completed → ∃ event ∈ events, event.closes kept.id)
  keeps : ∀ row ∈ before.queue, row.state = .completed →
    (∀ event ∈ events, ¬ event.Touches row.id) ∧
      (row ∈ after.queue ∨ ∃ event ∈ events, event.discards row.table)

namespace Lives

theorem refl (store : Store) : Lives store [] store where
  counter := Int.le_refl _
  rows := fun row queued => .inl
    ⟨row, queued, .refl row, (Int.add_zero _).symm, fun _ => rfl, .inl⟩
  keeps := fun row queued _ => ⟨by simp, .inl queued⟩

/-- An operation with the identity of one that was queued before stands in its row, and is
closed as it was if it was closed. -/
theorem of_id (lives : Lives before events after) (beforeSound : before.QueueSound)
    (afterSound : after.QueueSound) {kept : Operation} (queued : row ∈ before.queue)
    (keptQueued : kept ∈ after.queue) (named : kept.id = row.id) :
    Operation.SameRow row kept ∧
      kept.revision = row.revision + events.countP (Event.mergesInto row.id) ∧
      (row.state = .completed → kept = row) := by
  rcases lives.rows kept keptQueued with ⟨origin, originQueued, same, revision, closed, -⟩ |
      ⟨number, -⟩
  · cases beforeSound.eq_of_id originQueued queued (same.id.symm.trans named)
    exact ⟨same, revision, closed⟩
  · have bounds := beforeSound.numbered row queued
    have later := afterSound.numbered kept keptQueued
    rw [afterSound.named kept keptQueued, beforeSound.named row queued] at named
    have equal := Operation.idOfSequence_injective (by omega) (by omega) named
    omega

/-- One more event. -/
theorem evolves (lives : Lives before events middle) (beforeSound : before.QueueSound)
    (middleSound : middle.QueueSound) (evolves : Evolves middle event after) :
    Lives before (events ++ [event]) after where
  counter := Int.le_trans lives.counter evolves.counter
  rows := by
    have earlier {id : String} (closed : ∃ event ∈ events, Event.closes id event) :
        ∃ other ∈ events ++ [event], Event.closes id other :=
      closed.imp fun _ => And.imp_left (List.mem_append_left _)
    have last {id : String} (closes : event.closes id) :
        ∃ other ∈ events ++ [event], Event.closes id other :=
      ⟨event, by simp, closes⟩
    intro kept queued
    rcases evolves.rows kept queued with ⟨present, presentQueued, follows⟩ | ⟨number, isOpen⟩
    · rcases lives.rows present presentQueued with
        ⟨row, rowQueued, same, revision, closed, closes⟩ | ⟨number, closes⟩
      · refine .inl ⟨row, rowQueued, same.trans follows.same, ?_, ?_, ?_⟩
        · rw [follows.revision, revision, same.id, List.countP_append, List.countP_singleton]
          push_cast
          omega
        · intro completed
          have stays := closed completed
          exact (follows.closed (stays ▸ completed)).trans stays
        · intro completed
          rcases follows.closes completed with before | closed
          · exact (closes before).imp_right earlier
          · exact .inr (last (same.id ▸ closed))
      · refine .inr ⟨follows.same.sequence ▸ number, fun completed => ?_⟩
        rw [follows.same.id]
        exact (follows.closes completed).elim (fun before => earlier (closes before)) last
    · exact .inr ⟨Int.lt_of_le_of_lt lives.counter number,
        fun completed => absurd completed (not_completed_of_isOpen isOpen)⟩
  keeps := by
    intro row queued completed
    obtain ⟨untouched, stays⟩ := lives.keeps row queued completed
    constructor
    · intro other member touches
      rcases List.mem_append.mp member with old | new
      · exact untouched other old touches
      · -- What the event touches is open, so it is not in the row that was closed.
        cases List.mem_singleton.mp new
        obtain ⟨touched, touchedQueued, named, isOpen⟩ := evolves.touches row.id touches
        obtain ⟨-, -, closed⟩ := lives.of_id beforeSound middleSound queued touchedQueued named
        exact not_completed_of_isOpen isOpen (closed completed ▸ completed)
    · rcases stays with remains | ⟨other, member, discards⟩
      · refine (evolves.keeps row remains completed).imp_right fun discards => ?_
        exact ⟨event, by simp, discards⟩
      · exact .inr ⟨other, List.mem_append_left _ member, discards⟩

end Lives

/-- Every run has the effect of its events on the queue. The induction on the run adds one
event at a time, `Lives.evolves`. -/
theorem Runs.lives (reachable : Reachable start) (runs : Runs start events session) :
    Lives start.store events session.store := by
  induction runs with
  | refl => exact .refl _
  | step earlier happens inductionHypothesis =>
    have sound := (reachable.runs earlier).sound
    exact inductionHypothesis.evolves reachable.sound.queue sound.queue (happens.evolves sound)

/-- The life of a queued operation, in every run from every reachable session. It stays in its
row (`Operation.SameRow`), and its revision counts the edits that were merged into it. What is
completed was so before, or was sent and settled with the remote's entity. And an operation that
is completed is never listed, never merged into and never changed again; it stays until the
completed operations, or those of its table, are purged. -/
theorem row_lifecycle {later : Session} (reachable : Reachable start)
    (runs : Runs start events later) :
    (∀ row ∈ start.store.queue, ∀ kept ∈ later.store.queue, kept.id = row.id →
      Operation.SameRow row kept ∧
        kept.revision = row.revision + events.countP (Event.mergesInto row.id)) ∧
    (∀ kept ∈ later.store.queue, kept.state = .completed → kept ∈ start.store.queue ∨
      ∃ sent, .conceded sent .settled ∈ events ∧ sent.id = kept.id) ∧
    ∀ row ∈ start.store.queue, row.state = .completed →
      (∀ tables, ∀ listed ∈ later.store.listOpen tables, listed.id ≠ row.id) ∧
      (∀ event ∈ events, ¬ event.lists row.id ∧ ¬ event.mergesInto row.id) ∧
      (∀ kept ∈ later.store.queue, kept.id = row.id → kept = row) ∧
      (row ∈ later.store.queue ∨ .cleared ∈ events ∨ .purged row.table true ∈ events) := by
  have lives := runs.lives reachable
  have startSound := reachable.sound.queue
  have laterSound := (reachable.runs runs).sound.queue
  refine ⟨fun row queued kept keptQueued named => ?_, fun kept keptQueued completed => ?_,
    fun row queued completed => ?_⟩
  · obtain ⟨same, revision, -⟩ := lives.of_id startSound laterSound queued keptQueued named
    exact ⟨same, revision⟩
  · have conceded {id : String} (closed : ∃ event ∈ events, Event.closes id event) :
        ∃ sent, .conceded sent .settled ∈ events ∧ sent.id = id := by
      obtain ⟨event, member, closes⟩ := closed
      unfold Event.closes at closes
      split at closes
      · exact ⟨_, member, eq_of_beq closes⟩
      · cases closes
    rcases lives.rows kept keptQueued with ⟨row, queued, same, -, closed, closes⟩ | ⟨-, closes⟩
    · rcases closes completed with before | closes
      · exact .inl (closed before ▸ queued)
      · exact .inr (same.id ▸ conceded closes)
    · exact .inr (conceded (closes completed))
  · obtain ⟨untouched, stays⟩ := lives.keeps row queued completed
    have closed : ∀ kept ∈ later.store.queue, kept.id = row.id → kept = row :=
      fun kept keptQueued named =>
        (lives.of_id startSound laterSound queued keptQueued named).2.2 completed
    refine ⟨fun tables listed isListed named => ?_, fun event member => ?_, closed,
      stays.imp_right ?_⟩
    · obtain ⟨listedQueued, isOpen⟩ := Store.mem_of_listOpen isListed
      exact not_completed_of_isOpen isOpen (closed listed listedQueued named ▸ completed)
    · exact ⟨fun listed => untouched event member (.inr listed),
        fun merged => untouched event member (.inl merged)⟩
    · rintro ⟨event, member, discards⟩
      unfold Event.discards at discards
      split at discards
      · exact .inl member
      · exact .inr (eq_of_beq discards ▸ member)
      · cases discards

namespace Conceding

/-- An edit of an entity, with its title. -/
def edit (kind : OperationKind) (title : String) : Mutation where
  kind
  table := "todo"
  itemId := "1"
  item := (Document.object [("id", .text "1"), ("t", .text title)]).render
  before := none
  entityVersion := none

/-- The creation of the entity, as it is queued. -/
def creation : Operation := .ofMutation (edit .add "a") 1 ⟨0, 0⟩

/-- The creation with a later edit merged into it. -/
def merged : Operation := creation.merge .add (edit .replace "b")

/-- The operation after the remote's entity was taken over. -/
def completed : Operation := { merged with state := .completed, lastAttempt := some ⟨9, 0⟩ }

/-- A store with the entity as an edit left it, and one operation. -/
def holding (item : String) (version : Option String) (operation : Operation) : Store where
  entities := [(⟨"todo", "1"⟩, ⟨item, version, none⟩)]
  queue := [operation]
  watermarks := []
  lastSequence := 1

/-- What the remote holds. -/
def remote : Document := .object [("id", .text "1"), ("t", .text "c"), ("version", .text "v2")]

def created : Session := ⟨holding (edit .add "a").item none creation, []⟩

def conceded : Session := ⟨holding remote.render (some "v2") completed, []⟩

theorem reachable_created : Reachable created := by
  have recorded : Store.empty.recordLocalMutation (edit .add "a") ⟨0, 0⟩ =
      .ok (.created creation, created.store) := by
    decide +kernel
  exact .step .empty (.edited recorded)

theorem runs_conceded : Runs created
    [.edited (.coalesced merged), .listed merged, .conceded merged .settled] conceded := by
  have recorded : created.store.recordLocalMutation (edit .replace "b") ⟨0, 0⟩ =
      .ok (.coalesced merged, holding (edit .replace "b").item none merged) := by
    decide +kernel
  have listed : merged ∈ (holding (edit .replace "b").item none merged).listOpen [] := by
    decide +kernel
  have settled : (holding (edit .replace "b").item none merged).settleWithServer merged (some remote)
      ⟨9, 0⟩ = .ok (.settled, conceded.store) := by
    decide +kernel
  have edited := Runs.refl.step (.edited recorded)
  have sent := edited.step (.listed listed (by simp [created]))
  exact sent.step (.conceded (List.mem_singleton_self merged) settled)

end Conceding

/-- A creation counts the edit that is merged into it, and is closed in its row by a
conflict. -/
theorem row_lifecycle_conceded :
    Reachable Conceding.created ∧
      Runs Conceding.created [.edited (.coalesced Conceding.merged), .listed Conceding.merged,
        .conceded Conceding.merged .settled] Conceding.conceded ∧
      Operation.SameRow Conceding.creation Conceding.completed ∧
      Conceding.completed.revision = 1 := by
  have life := row_lifecycle Conceding.reachable_created Conceding.runs_conceded
  obtain ⟨same, revision⟩ := life.1 Conceding.creation (List.mem_singleton_self _)
    Conceding.completed (List.mem_singleton_self _) rfl
  exact ⟨Conceding.reachable_created, Conceding.runs_conceded, same, revision.trans rfl⟩

end Session

end OfflineSync
