import OfflineSync.Proofs.Store.Descent
import OfflineSync.Proofs.Store.OpenIndex
import OfflineSync.Sync.Push

/-!
# One open operation of an entity

A store is edited, pulled into and purged, while the results of operations that pushes have listed
are awaited: that is a `Session`. Each listed operation gets one result at most, and edits may come
between. Whatever the order, an operation whose result is awaited is open or gone (`Sound`), so that
no entity ever has two open operations, and the index which forbids it is never what stops a call.
The push of a run goes on in these steps, `Reachable.push`.
-/

namespace OfflineSync

/-- A store in use, with the operations whose results are awaited. -/
structure Session where
  store : Store
  awaited : List Operation

namespace Session

/-- The session after a result about an operation was written. -/
def received (session : Session) (sent : Operation) (next : Store) : Session :=
  ⟨next, session.awaited.filter fun other => other.id != sent.id⟩

/-- The calls that lead from one session to the next. A result that could not be written
has changed nothing: its operation is still awaited, and may be noted as failed. -/
inductive Step (session : Session) : Session → Prop where
  | edited {mutation : Mutation} {now : Instant} {outcome : EnqueueOutcome} {next : Store}
      (recorded : session.store.recordLocalMutation mutation now = .ok (outcome, next)) :
      Step session { session with store := next }
  | enqueued {mutation : Mutation} {now : Instant} {outcome : EnqueueOutcome} {next : Store}
      (queued : session.store.enqueue mutation now = .ok (outcome, next)) :
      Step session { session with store := next }
  /-- A push lists an open operation of which no result is outstanding. -/
  | listed {sent : Operation} {tables : List String} (isListed : sent ∈ session.store.listOpen tables)
      (fresh : ∀ other ∈ session.awaited, other.id ≠ sent.id) :
      Step session { session with awaited := session.awaited ++ [sent] }
  | pushed {sent : Operation} {body : Option Document} {header : Option String} {now : Instant}
      {settlement : Settlement} {next : Store} (awaits : sent ∈ session.awaited)
      (completed : session.store.completePush sent body header now = .ok (settlement, next)) :
      Step session (session.received sent next)
  | conceded {sent : Operation} {body : Option Document} {now : Instant}
      {settlement : Settlement} {next : Store} (awaits : sent ∈ session.awaited)
      (settled : session.store.settleWithServer sent body now = .ok (settlement, next)) :
      Step session (session.received sent next)
  | failed {sent : Operation} {status : Option Int} {reason : String} {now : Instant}
      {marked : Bool} {next : Store} (awaits : sent ∈ session.awaited)
      (noted : session.store.recordFailure sent status reason now = .ok (marked, next)) :
      Step session (session.received sent next)
  /-- The results of some operations never come. -/
  | abandoned {remaining : List Operation} (fewer : remaining.Sublist session.awaited) :
      Step session { session with awaited := remaining }
  | pulled (table tokenKey : String) (rows : List Document) :
      Step session { session with store := (session.store.applyPage table tokenKey rows).2 }
  | cleared : Step session { session with store := session.store.purgeCompleted.2 }
  | purged (table : String) (discard : Bool) :
      Step session { session with store := (session.store.purgeTable table discard).2 }
  | reset (tokenKey : String) :
      Step session { session with store := (session.store.resetWatermark tokenKey).2 }

/-- The sessions that calls lead to from an empty store. -/
inductive Reachable : Session → Prop where
  | empty : Reachable ⟨.empty, []⟩
  | step {session next : Session} (earlier : Reachable session) (call : Step session next) :
      Reachable next

/-- Whether an operation whose result is awaited is open, if it is still queued. -/
structure StaysOpen (store : Store) (sent : Operation) : Prop where
  handedOut : store.HandedOut sent
  isOpen : ∀ row, store.operation? sent.id = some row → row.isOpen

/-- What holds in every session: a sound queue, and awaited operations that are apart from each
other and each `StaysOpen`. -/
structure Sound (session : Session) : Prop where
  queue : session.store.QueueSound
  opens : ∀ sent ∈ session.awaited, StaysOpen session.store sent
  distinct : session.awaited.Pairwise fun earlier later => earlier.id ≠ later.id

/-! ### Sound sessions -/

section Soundness

variable {session next : Session} {store : Store} {sent : Operation}

/-- An operation that is listed is open. -/
theorem staysOpen_of_listed {tables : List String} (sound : store.QueueSound)
    (isListed : sent ∈ store.listOpen tables) : StaysOpen store sent := by
  obtain ⟨queued, isOpen⟩ := Store.mem_of_listOpen isListed
  refine ⟨sound.handedOut queued, fun row found => ?_⟩
  cases found.symm.trans (sound.operation?_eq_some.mpr ⟨queued, rfl⟩)
  exact isOpen

/-- An operation stays open (`StaysOpen`) until it is closed. -/
theorem StaysOpen.descends {closes : String → Prop} {after : Store} (stays : StaysOpen store sent)
    (sound : store.QueueSound) (afterSound : after.QueueSound)
    (descends : Store.Descends closes store after) (spared : ¬ closes sent.id) :
    StaysOpen after sent where
  handedOut := descends.handedOut stays.handedOut
  isOpen := by
    intro row found
    obtain ⟨present, held, -, remains⟩ :=
      descends.operation? sound afterSound stays.handedOut found
    exact (remains (stays.isOpen present held)).resolve_right spared

/-- A call that closes nothing keeps a session sound, since the operations stay in their
rows (`Descends`). -/
theorem Sound.descends {after : Store} (sound : Sound session) (afterSound : after.QueueSound)
    (descends : Store.Descends (fun _ => False) session.store after) :
    Sound { session with store := after } where
  queue := afterSound
  opens := fun sent awaits => (sound.opens sent awaits).descends sound.queue afterSound descends id
  distinct := sound.distinct

/-- A result closes nothing but the operation that it is about. -/
theorem Sound.received {after : Store} (sound : Sound session) (afterSound : after.QueueSound)
    (descends : Store.Descends (· = sent.id) session.store after) :
    Sound (session.received sent after) where
  queue := afterSound
  opens := by
    intro other remaining
    obtain ⟨awaits, differs⟩ := List.mem_filter.mp remaining
    exact (sound.opens other awaits).descends sound.queue afterSound descends (by simpa using differs)
  distinct := sound.distinct.filter _

/-- Every call keeps a session `Sound`. -/
theorem Step.sound (call : Step session next) (sound : Sound session) : Sound next := by
  have unchanged {after : Store} (queue : after.queue = session.store.queue)
      (counter : after.lastSequence = session.store.lastSequence) :
      Sound { session with store := after } :=
    sound.descends (sound.queue.of_same queue counter)
      (.of_subset (Int.le_of_eq counter.symm) fun _ queued => queue ▸ queued)
  have selected {after : Store} (fewer : after.queue.Sublist session.store.queue)
      (counter : after.lastSequence = session.store.lastSequence) :
      Sound { session with store := after } :=
    sound.descends (sound.queue.of_sublist fewer counter)
      (.of_subset (Int.le_of_eq counter.symm) fun _ queued => fewer.subset queued)
  cases call with
  | edited recorded =>
    exact sound.descends ((Store.Step.edited recorded).queueSound sound.queue)
      (Store.descends_recordLocalMutation recorded sound.queue)
  | enqueued queued =>
    have enqueues := Store.enqueues_of_enqueue queued
    exact sound.descends (enqueues.queueSound sound.queue) (enqueues.descends sound.queue)
  | listed isListed fresh =>
    refine ⟨sound.queue, fun other member => ?_, ?_⟩
    · rcases List.mem_append.mp member with awaits | new
      · exact sound.opens other awaits
      · cases List.mem_singleton.mp new
        exact staysOpen_of_listed sound.queue isListed
    · refine List.pairwise_append.mpr ⟨sound.distinct, List.pairwise_singleton .., ?_⟩
      intro other awaits new member
      cases List.mem_singleton.mp member
      exact fresh other awaits
  | pushed awaits completed =>
    have completes := Store.completesPush_of_completePush completed
    exact sound.received (completes.queueSound sound.queue) (completes.descends sound.queue)
  | conceded awaits settled =>
    obtain ⟨document, metadata, -, settles⟩ := Store.settlesWithServer_of_settleWithServer settled
    exact sound.received (settles.queueSound sound.queue) (settles.descends sound.queue)
  | failed awaits noted =>
    have records := Store.recordsFailure_of_recordFailure noted
    exact sound.received (records.queueSound sound.queue) records.descends
  | abandoned fewer =>
    exact ⟨sound.queue, fun other remains => sound.opens other (fewer.subset remains),
      sound.distinct.sublist fewer⟩
  | pulled table tokenKey rows => exact unchanged (by simp) (by simp)
  | cleared => exact selected List.filter_sublist rfl
  | purged table discard =>
    cases discard with
    | true => exact selected List.filter_sublist rfl
    | false => exact unchanged rfl rfl
  | reset tokenKey => exact unchanged rfl rfl

/-- A session that calls lead to is `Sound`. -/
theorem Reachable.sound (reachable : Reachable session) : Sound session := by
  induction reachable with
  | empty => exact ⟨Store.queueSound_empty, by simp, List.Pairwise.nil⟩
  | step earlier call inductionHypothesis => exact call.sound inductionHypothesis

end Soundness

/-! ### Pushes -/

section Pushes

variable {σ : Type} (remote : Remote σ) (policies : PolicyChoice) {store : Store}
  {awaited more : List Operation} {sent : Operation} {run : Run σ} {pushing : Pushing σ}

/-- Edits that are made while results are awaited. A refused edit changes nothing. -/
theorem Reachable.editAll (edits : List Edit) (now : Instant) (reachable : Reachable ⟨store, awaited⟩) :
    Reachable ⟨(store.editAll now edits).2, awaited⟩ := by
  refine Store.editAll_induction (motive := fun store => Reachable ⟨store, awaited⟩) reachable ?_
  intro edit _ mutation _ before outcome after earlier recorded
  exact earlier.step (.edited recorded)

/-- In the exchange about an operation, `Run.converse`, edits are all that reaches the
store. -/
theorem Reachable.converse (policy : Option ConflictPolicy) (sent : Operation)
    (reachable : Reachable ⟨run.store, awaited⟩) :
    Reachable ⟨(run.converse remote policy sent).2.store, awaited⟩ := by
  exact Run.converse_induction (motive := fun run => Reachable ⟨run.store, awaited⟩)
    (fun run request earlier => earlier.editAll _ _) reachable policy sent

/-- Whatever comes of an operation, its result is awaited no longer: `Store.conclude` writes
one result, or two of which the first changes nothing. -/
theorem Reachable.conclude (reachable : Reachable ⟨store, awaited⟩) (awaits : sent ∈ awaited)
    (conclusion : Conclusion) (now : Instant) :
    Reachable ⟨(store.conclude sent conclusion now).2,
      awaited.filter fun other => other.id != sent.id⟩ := by
  have rejected : Reachable ⟨store, awaited.filter fun other => other.id != sent.id⟩ :=
    reachable.step (.abandoned List.filter_sublist)
  have noted (failure : PushFailure) : Reachable ⟨store.noteFailure sent failure now,
      awaited.filter fun other => other.id != sent.id⟩ := by
    unfold Store.noteFailure
    split
    · rename_i noted
      exact reachable.step (.failed awaits noted)
    · exact rejected
  unfold Store.conclude
  cases conclusion with
  | accepted status body header =>
    dsimp only
    split
    · rename_i completed
      exact reachable.step (.pushed awaits completed)
    · exact rejected
  | adopted status body =>
    dsimp only
    split
    · rename_i settled
      exact reachable.step (.conceded awaits settled)
    · exact noted _
  | failed failure => exact noted failure

/-- The oldest of the operations awaited is concluded. -/
theorem Reachable.concludeFirst (reachable : Reachable ⟨store, sent :: more⟩)
    (conclusion : Conclusion) (now : Instant) :
    Reachable ⟨(store.conclude sent conclusion now).2, more⟩ := by
  have others : more.filter (fun other => other.id != sent.id) = more := by
    refine List.filter_eq_self.mpr fun other member => ?_
    have differs := (List.pairwise_cons.mp reachable.sound.distinct).1 other member
    simpa using differs.symm
  have concluded := reachable.conclude (List.mem_cons_self ..) conclusion now
  rwa [List.filter_cons_of_neg (by simp), others] at concluded

/-- The operations of a push whose results are outstanding, oldest first. -/
def pending (pushing : Pushing σ) : List Operation :=
  pushing.answered.map Prod.fst ++ pushing.started

/-- The exchanges about operations in hand leave them in hand. -/
theorem exchange_pending (operations : List Operation) (idle : pushing.started = [])
    (reachable : Reachable ⟨pushing.run.store, awaited⟩) :
    pending (operations.foldl (.exchange remote policies) pushing) = pending pushing ++ operations ∧
      Reachable ⟨(operations.foldl (.exchange remote policies) pushing).run.store, awaited⟩ := by
  induction operations generalizing pushing with
  | nil => exact ⟨(List.append_nil _).symm, reachable⟩
  | cons operation rest inductionHypothesis =>
    obtain ⟨same, reached⟩ := @inductionHypothesis (pushing.exchange remote policies operation) idle
      (reachable.converse remote (policies operation.table) operation)
    refine ⟨same.trans ?_, reached⟩
    simp [pending, Pushing.exchange, idle]

/-- The exchanges that are begun are carried out. -/
theorem exchangeAll_pending (reachable : Reachable ⟨pushing.run.store, awaited⟩) :
    pending (pushing.exchangeAll remote policies) = pending pushing ∧
      Reachable ⟨(pushing.exchangeAll remote policies).run.store, awaited⟩ := by
  let idle : Pushing σ := { pushing with started := [] }
  have awaits : Reachable ⟨idle.run.store, awaited⟩ := reachable
  have exchanged := exchange_pending remote policies pushing.started (rfl : idle.started = []) awaits
  simpa [idle, pending, Pushing.exchangeAll] using exchanged

/-- Conclusions are written in the order of the operations. -/
theorem settle_pending (answered : List (Operation × Conclusion))
    (reachable : Reachable ⟨pushing.run.store, answered.map Prod.fst ++ more⟩) :
    Reachable ⟨(answered.foldl (fun pushing entry => pushing.settle entry.1 entry.2)
      pushing).run.store, more⟩ := by
  induction answered generalizing pushing with
  | nil => exact reachable
  | cons entry rest inductionHypothesis =>
    exact @inductionHypothesis (pushing.settle entry.1 entry.2)
      (reachable.concludeFirst entry.2 pushing.run.now)

/-- Once there is room for one more operation, by `makeRoom`, those in hand are still awaited. -/
theorem Reachable.makeRoom (workers : Nat)
    (reachable : Reachable ⟨pushing.run.store, pending pushing ++ more⟩) :
    Reachable ⟨(pushing.makeRoom remote policies workers).run.store,
      pending (pushing.makeRoom remote policies workers) ++ more⟩ := by
  unfold Pushing.makeRoom
  split
  · exact reachable
  · obtain ⟨same, reached⟩ := exchangeAll_pending remote policies reachable
    rw [← same] at reached
    unfold Pushing.settleOldest
    cases answered : (pushing.exchangeAll remote policies).answered with
    | nil => exact reached
    | cons entry rest =>
      rw [pending, answered] at reached
      exact reached.concludeFirst entry.2 (pushing.exchangeAll remote policies).run.now

/-- When a push has finished what it took up, no result is awaited. -/
theorem Reachable.finish (reachable : Reachable ⟨pushing.run.store, pending pushing ++ more⟩) :
    Reachable ⟨(pushing.finish remote policies).run.store, []⟩ := by
  obtain ⟨same, reached⟩ := exchangeAll_pending remote policies reachable
  rw [← same, pending, List.append_assoc] at reached
  have settled := @settle_pending _ _
    { pushing.exchangeAll remote policies with answered := [] } _ reached
  exact settled.step (.abandoned (List.nil_sublist _))

/-- Operations are taken up one after the other, and whatever is left is abandoned. -/
theorem Reachable.pushEach (workers : Nat) (operations : List Operation)
    (reachable : Reachable ⟨pushing.run.store, pending pushing ++ operations⟩) :
    Reachable ⟨(pushing.pushEach remote policies workers operations).2.run.store, []⟩ := by
  induction operations generalizing pushing with
  | nil => exact reachable.finish remote policies
  | cons operation rest inductionHypothesis =>
    have room := reachable.makeRoom remote policies workers
    unfold Pushing.pushEach
    dsimp only
    split
    · exact room.finish remote policies
    · refine inductionHypothesis ?_
      simpa [pending, Pushing.takeUp] using room

/-- A push begins by listing what is open. -/
theorem Reachable.listAll {tables : List String} {operations : List Operation}
    (reachable : Reachable ⟨store, awaited⟩)
    (listed : ∀ operation ∈ operations, operation ∈ store.listOpen tables)
    (distinct : (awaited ++ operations).Pairwise fun earlier later => earlier.id ≠ later.id) :
    Reachable ⟨store, awaited ++ operations⟩ := by
  induction operations generalizing awaited with
  | nil => rwa [List.append_nil]
  | cons operation rest inductionHypothesis =>
    have fresh : ∀ other ∈ awaited, other.id ≠ operation.id := fun other awaits =>
      (List.pairwise_append.mp distinct).2.2 other awaits operation (List.mem_cons_self ..)
    have one := reachable.step (.listed (listed operation (List.mem_cons_self ..)) fresh)
    rw [List.append_cons] at distinct ⊢
    exact inductionHypothesis one (fun other member => listed other (List.mem_cons_of_mem _ member))
      distinct

/-- A push is a run of calls: `Run.push` starts and ends without a result outstanding. -/
theorem Reachable.push (reachable : Reachable ⟨run.store, []⟩) (workers : Nat)
    (tables : List String) : Reachable ⟨(run.push remote policies workers tables).2.store, []⟩ := by
  have distinct : (run.store.listOpen tables).Pairwise fun earlier later => earlier.id ≠ later.id := by
    have sound := reachable.sound.queue
    refine (sound.ascending.filter _).imp_of_mem ?_
    intro earlier later earlierListed laterListed lower same
    have one := sound.eq_of_id (Store.mem_of_listOpen earlierListed).1
      (Store.mem_of_listOpen laterListed).1 same
    exact Int.ne_of_lt lower (congrArg Operation.sequence one)
  have listed := reachable.listAll (fun _ => id) distinct
  exact pushEach remote policies workers _ (listed : Reachable ⟨(Pushing.ofRun run).run.store, _⟩)

end Pushes

/-! ### The index -/

/-- In every session, an entity has one open operation at most. No edit, success or conceded
conflict is refused by the index of open operations, which `enqueueIndexed` and its siblings
consult, and a failure can be noted on every operation whose result is awaited. -/
theorem one_open_operation {session : Session} (reachable : Reachable session) :
    (∀ table itemId, (session.store.openRows table itemId).length ≤ 1) ∧
    (∀ mutation now,
      session.store.enqueueIndexed mutation now = session.store.enqueue mutation now ∧
      session.store.recordLocalMutationIndexed mutation now =
        session.store.recordLocalMutation mutation now) ∧
    ∀ sent ∈ session.awaited,
      (∀ body header now, session.store.completePushIndexed sent body header now =
        session.store.completePush sent body header now) ∧
      (∀ body now, session.store.settleWithServerIndexed sent body now =
        session.store.settleWithServer sent body now) ∧
      ∀ status reason now, ∃ marked next,
        session.store.recordFailure sent status reason now = .ok (marked, next) := by
  obtain ⟨queue, opens, -⟩ := reachable.sound
  refine ⟨queue.openRows_length_le, fun mutation now => ?_, fun sent awaits => ?_⟩
  · exact ⟨queue.enqueueIndexed_eq mutation now, queue.recordLocalMutationIndexed_eq mutation now⟩
  · exact ⟨queue.completePushIndexed_eq sent, queue.settleWithServerIndexed_eq sent,
      queue.recordFailure_isOk (opens sent awaits).isOpen⟩

/-- A removal is listed, and its entity created anew before the result comes. -/
theorem one_open_operation_recreated :
    Reachable ⟨Store.Removal.recreated, [Store.Removal.operation]⟩ ∧
      Store.Removal.recreated.openRows "todo" "1" =
        [Store.Removal.operation.merge .replace (Store.Removal.edit .add)] ∧
      ∃ marked next, Store.Removal.recreated.recordFailure Store.Removal.operation (some 500)
        "HTTP 500" ⟨0, 0⟩ = .ok (marked, next) := by
  have removed : Reachable ⟨Store.Removal.queued, []⟩ :=
    .step .empty (.edited Store.Removal.recorded_removal)
  have listed : Reachable ⟨Store.Removal.queued, [Store.Removal.operation]⟩ :=
    removed.step (.listed Store.Removal.listed_operation (by simp))
  have recreated : Reachable ⟨Store.Removal.recreated, [Store.Removal.operation]⟩ :=
    listed.step (.edited Store.Removal.recorded_creation)
  obtain ⟨-, -, results⟩ := one_open_operation recreated
  obtain ⟨-, -, fails⟩ := results _ (List.mem_singleton_self _)
  exact ⟨recreated, rfl, fails _ _ _⟩

end Session

end OfflineSync
