import OfflineSync.Proofs.Store.AcceptedAnswers
import OfflineSync.Proofs.Sync.Accounting
import OfflineSync.Proofs.Sync.Workers

/-!
# Failures on record

A failure that a push reports is noted on the row of its operation: the status of the last answer
and the message, as they are reported (`Operation.Records`). The failures under the status of a
success, `PushFailure.OfSuccess`, are the exception. There the store has rejected what the remote
answered, and the row stays as it was before the push. Workers keep `OnRecord`, whatever the order
of their steps.
-/

namespace OfflineSync

/-- Whether a failure is reported under the status of a success. -/
def PushFailure.OfSuccess (failure : PushFailure) : Prop :=
  ∃ status, failure.status = some status ∧ 200 ≤ status ∧ status < 300

/-- Whether an operation carries the record of a failure. -/
structure Operation.Records (row : Operation) (failure : PushFailure) : Prop where
  failed : row.state = .failed
  attempted : row.lastAttempt.isSome
  status : row.lastStatus = failure.status.map Int.ofNat
  message : row.lastError = some failure.message

/-! ### The conclusions of an exchange -/

namespace Conclusion

/-- Whether a conclusion has a status that an exchange gives it: a success where the remote
has done what it was asked, and none where it has not. -/
def Fits : Conclusion → Prop
  | .accepted status _ _ => 200 ≤ status ∧ status < 300
  | .adopted status _ => ¬ (200 ≤ status ∧ status < 300)
  | .failed failure => ¬ failure.OfSuccess

variable {answer : Except SyncError Response} {conclusion : Conclusion}

theorem fits_unanswered (message : String) : (failed (.unanswered message)).Fits := by
  rintro ⟨status, answered, -⟩
  cases answered

/-- The conclusion from an answer alone, `ofAnswer`, has the status of the answer. -/
theorem fits_ofAnswer : (ofAnswer answer).Fits := by
  unfold ofAnswer
  cases answer with
  | error fault => exact fits_unanswered fault.message
  | ok response =>
    dsimp only
    split
    · rename_i success
      simpa [Fits, Response.isSuccess] using success
    · rename_i refusal
      rintro ⟨status, answered, success⟩
      cases answered
      exact refusal (by simpa [Response.isSuccess] using success)

/-- The conclusion from a first answer, by `firstVerdict`, has the status of the answer. -/
theorem fits_of_firstVerdict {policy : Option ConflictPolicy} {operation : Operation}
    (verdict : firstVerdict policy operation answer = .conclude conclusion) : conclusion.Fits := by
  unfold firstVerdict at verdict
  split at verdict
  · cases verdict
  · rename_i response resolved
    cases verdict
    have conflict : response.isConflict := by
      cases policy with
      | none => cases resolved
      | some policy =>
        simp only [resolutionOf] at resolved
        split at resolved
        · assumption
        · cases resolved
    simp only [Response.isConflict, Bool.or_eq_true, beq_iff_eq] at conflict
    simp only [Fits]
    omega
  · cases verdict
    exact fits_ofAnswer

end Conclusion

/-- A worker comes to no conclusion but one that `Fits`. -/
theorem Run.fits_workOn {σ : Type} {remote : Remote σ} {policy : Option ConflictPolicy}
    {run : Run σ} {operation : Operation} {stage : Stage} {conclusion : Conclusion}
    (unconcluded : ¬ stage.IsConcluded)
    (concludes : (run.workOn remote policy operation stage).1 = .concluded conclusion) :
    conclusion.Fits := by
  have unsent (run : Run σ) (forced : Bool) {refused : Conclusion} {next : Run σ}
      (sent : run.sendOperation remote operation forced = (.error refused, next)) :
      refused.Fits := by
    unfold sendOperation at sent
    cases requested : operation.request forced with
    | error fault =>
      rw [requested] at sent
      cases sent
      exact Conclusion.fits_unanswered _
    | ok request =>
      rw [requested] at sent
      cases sent
  unfold workOn at concludes
  cases stage with
  | begun =>
    dsimp only at concludes
    split at concludes
    · rename_i sent
      cases concludes
      exact unsent run false sent
    · split at concludes
      · rename_i verdict
        cases concludes
        exact Conclusion.fits_of_firstVerdict verdict
      · cases concludes
  | resending =>
    dsimp only at concludes
    split at concludes
    · rename_i sent
      cases concludes
      exact unsent run true sent
    · cases concludes
      exact Conclusion.fits_ofAnswer
  | concluded conclusion => exact absurd trivial unconcluded

/-! ### What a failure leaves on its row -/

namespace Store

variable {store : Store} {sent : Operation} {failure : PushFailure} {conclusion : Conclusion}
  {now : Instant}

/-- A failure is noted by `noteFailure` on the row of an operation that is still as it was sent. -/
theorem records_noteFailure (sound : store.QueueSound) (queued : sent ∈ store.queue)
    (isOpen : sent.isOpen) : ∃ row ∈ (store.noteFailure sent failure now).queue,
      row.id = sent.id ∧ row.Records failure := by
  have found := sound.operation?_eq_some.mpr ⟨queued, rfl⟩
  have alone := sound.not_hasOpenRival queued isOpen
  unfold noteFailure recordFailure
  simp only [found, ne_eq, not_true_eq_false, if_false, if_neg alone]
  refine ⟨_, mem_updateOperation.mpr ⟨sent, queued, if_pos (beq_self_eq_true _)⟩, rfl, ?_⟩
  exact ⟨rfl, rfl, rfl, rfl⟩

/-- A failure that is reported is noted on the row, or is a success that the store rejects,
which leaves the row as it was. -/
theorem row_of_conclude (sound : store.QueueSound) (queued : sent ∈ store.queue)
    (isOpen : sent.isOpen) (fits : conclusion.Fits)
    (reported : (store.conclude sent conclusion now).1 = some failure) :
    ∃ row ∈ (store.conclude sent conclusion now).2.queue, row.id = sent.id ∧
      (failure.OfSuccess → row = sent) ∧ (¬ failure.OfSuccess → row.Records failure) := by
  have noted (other : PushFailure) (refused : ¬ other.OfSuccess) :
      ∃ row ∈ (store.noteFailure sent other now).queue, row.id = sent.id ∧
        (other.OfSuccess → row = sent) ∧ (¬ other.OfSuccess → row.Records other) := by
    obtain ⟨row, rowQueued, named, records⟩ := records_noteFailure sound queued isOpen
    exact ⟨row, rowQueued, named, fun success => absurd success refused, fun _ => records⟩
  unfold conclude at reported ⊢
  cases conclusion with
  | accepted status body version =>
    dsimp only at reported ⊢
    split at reported
    · cases reported
    · cases reported
      exact ⟨sent, queued, rfl, fun _ => rfl, fun refused => absurd ⟨status, rfl, fits⟩ refused⟩
  | adopted status body =>
    dsimp only at reported ⊢
    split at reported
    · cases reported
    · cases reported
      refine noted _ ?_
      rintro ⟨_, ⟨⟩, success⟩
      exact fits success
  | failed other =>
    cases reported
    exact noted _ fits

end Store

/-! ### The whole push -/

namespace Crew

variable {σ : Type} {remote : Remote σ} {policies : PolicyChoice} {workers : Nat}
  {crew next ending : Crew σ} {start : Store} {tables : List String} {run : Run σ}
  {result : PushResult} {failure : PushFailure} {id : String}

/-- Whether the rows of the operations that a push reports as failed show it, while those of
all operations that are not settled are as they were listed. -/
structure OnRecord (start : Store) (tables : List String) (crew : Crew σ) : Prop
    extends FollowsList (start.listOpen tables) crew where
  sound : crew.run.store.QueueSound
  kept : ∀ operation ∈ start.listOpen tables, operation ∉ crew.settled.map Prod.fst →
    operation ∈ crew.run.store.queue
  fits : ∀ operation conclusion, (operation, Stage.concluded conclusion) ∈ crew.inHand →
    conclusion.Fits
  noted : ∀ id failure, KeyedList.get? id crew.result.failures = some failure →
    ∃ operation ∈ crew.settled.map Prod.fst, operation.id = id ∧
      ∃ row ∈ crew.run.store.queue, row.id = id ∧
        (failure.OfSuccess → row = operation) ∧ (¬ failure.OfSuccess → row.Records failure)

/-- A settled operation joins those settled before. -/
theorem mem_settled_withSettled {inHand : List (Operation × Stage)} {operation other : Operation}
    {conclusion : Conclusion} :
    other ∈ (crew.withSettled inHand operation conclusion).settled.map Prod.fst ↔
      other ∈ crew.settled.map Prod.fst ∨ other = operation := by
  simp [withSettled, List.map_append]

namespace OnRecord

section Settled

variable {operation : Operation} {conclusion : Conclusion} {inHand : List (Operation × Stage)}
  (record : OnRecord start tables crew) (startSound : start.QueueSound)
  (among : (operation, Stage.concluded conclusion) ∈ crew.inHand)
include record startSound among

/-- What is in hand is queued as it was listed, and open. -/
theorem queued_of_inHand : operation ∈ crew.run.store.queue ∧ operation.isOpen := by
  have listed := record.listed_of_inHand among
  exact ⟨record.kept operation listed (record.not_settled among startSound.nodup_listOpen),
    (Store.mem_of_listOpen listed).2⟩

/-- What is queued for another operation stays when one is settled. -/
theorem mem_withSettled {other row : Operation} (otherListed : other ∈ start.listOpen tables)
    (apart : other ≠ operation) (named : row.id = other.id) :
    row ∈ (crew.withSettled inHand operation conclusion).run.store.queue ↔
      row ∈ crew.run.store.queue := by
  obtain ⟨queued, isOpen⟩ := record.queued_of_inHand startSound among
  have found := record.sound.operation?_eq_some.mpr ⟨queued, rfl⟩
  have concludes :=
    Store.concludes_of_conclude record.sound found isOpen conclusion crew.run.now
  refine concludes.others row fun same => apart ?_
  exact startSound.eq_of_id (Store.mem_of_listOpen otherListed).1
    (Store.mem_of_listOpen (record.listed_of_inHand among)).1 (named.symm.trans same)

/-- The failures that are reported once an operation is settled are on record: those that
were reported before, and its own. -/
theorem noted_withSettled (id : String) (failure : PushFailure)
    (reported : KeyedList.get? id
      (crew.withSettled inHand operation conclusion).result.failures = some failure) :
    ∃ other ∈ (crew.withSettled inHand operation conclusion).settled.map Prod.fst, other.id = id ∧
      ∃ row ∈ (crew.withSettled inHand operation conclusion).run.store.queue, row.id = id ∧
        (failure.OfSuccess → row = other) ∧ (¬ failure.OfSuccess → row.Records failure) := by
  have earlier (old : KeyedList.get? id crew.result.failures = some failure) :
      ∃ other ∈ (crew.withSettled inHand operation conclusion).settled.map Prod.fst,
        other.id = id ∧
        ∃ row ∈ (crew.withSettled inHand operation conclusion).run.store.queue, row.id = id ∧
          (failure.OfSuccess → row = other) ∧ (¬ failure.OfSuccess → row.Records failure) := by
    obtain ⟨other, settled, named, row, queued, rowNamed, holds⟩ := record.noted id failure old
    have listed : other ∈ start.listOpen tables :=
      record.perm.mem_iff.mpr (List.mem_append_right _ (List.mem_append_right _ settled))
    have apart : other ≠ operation := fun same =>
      record.not_settled among startSound.nodup_listOpen (same ▸ settled)
    exact ⟨other, mem_settled_withSettled.mpr (.inl settled), named, row,
      (record.mem_withSettled startSound among listed apart (rowNamed.trans named.symm)).mpr queued,
      rowNamed, holds⟩
  cases concluded : (crew.run.store.conclude operation conclusion crew.run.now).1 with
  | none =>
    simp only [withSettled, concluded, PushResult.note] at reported
    exact earlier reported
  | some other =>
    simp only [withSettled, concluded, PushResult.note, KeyedList.get?_insert] at reported
    split at reported
    · rename_i named
      cases reported
      obtain ⟨queued, isOpen⟩ := record.queued_of_inHand startSound among
      obtain ⟨row, rowQueued, rowNamed, holds⟩ := Store.row_of_conclude record.sound queued isOpen
        (record.fits operation conclusion among) concluded
      exact ⟨operation, mem_settled_withSettled.mpr (.inr rfl), named, row, rowQueued,
        rowNamed.trans named, holds⟩
    · exact earlier reported

end Settled

/-- A push that nobody edits during keeps its failures on record with each step. -/
theorem step (record : OnRecord start tables crew) (startSound : start.QueueSound)
    (quiet : ∀ request state, (remote request state).1.edits = [])
    (happens : Step remote policies workers crew next) : OnRecord start tables next := by
  have list := record.toFollowsList.step happens
  cases happens with
  | takenUp waits goesOn uncancelled free =>
    refine ⟨list, record.sound, record.kept, fun operation conclusion held => ?_, record.noted⟩
    rcases List.mem_append.mp held with earlier | new
    · exact record.fits operation conclusion earlier
    · cases List.mem_singleton.mp new
  | @worked before after operation stage held unconcluded =>
    have same : (crew.run.workOn remote (policies operation.table) operation stage).2.store =
        crew.run.store := crew.run.store_workOn quiet _ operation stage
    refine ⟨list, ?_, ?_, fun other conclusion among => ?_, ?_⟩
    · simpa only [withWork, same] using record.sound
    · simpa only [withWork, same] using record.kept
    · rcases List.mem_append.mp among with earlier | later
      · exact record.fits other conclusion (held ▸ List.mem_append_left _ earlier)
      · rcases List.mem_cons.mp later with own | later
        · obtain ⟨-, concludes⟩ := Prod.mk.inj own
          exact Run.fits_workOn unconcluded concludes.symm
        · exact record.fits other conclusion
            (held ▸ List.mem_append_right _ (List.mem_cons_of_mem _ later))
    · simpa only [withWork, same] using record.noted
  | @settled before after operation conclusion held =>
    have among : (operation, Stage.concluded conclusion) ∈ crew.inHand :=
      held ▸ List.mem_append_cons_self
    refine ⟨list, record.sound.conclude operation conclusion crew.run.now,
      fun other otherListed waits => ?_, fun other concluded otherHeld => ?_,
      record.noted_withSettled startSound among⟩
    · rw [mem_settled_withSettled, not_or] at waits
      exact (record.mem_withSettled startSound among otherListed waits.2 rfl).mpr
        (record.kept other otherListed waits.1)
    · refine record.fits other concluded ?_
      rw [held]
      rcases List.mem_append.mp otherHeld with first | last
      · exact List.mem_append_left _ first
      · exact List.mem_append_right _ (List.mem_cons_of_mem _ last)
  | cancelled => exact ⟨list, record.sound, record.kept, record.fits, record.noted⟩
  | stopped waits fired => exact ⟨list, record.sound, record.kept, record.fits, record.noted⟩

end OnRecord

/-- However the workers go on, the failures stay on record (`OnRecord`). -/
theorem onRecord_of_leads (sound : run.store.QueueSound)
    (quiet : ∀ request state, (remote request state).1.edits = [])
    (leads : Leads remote policies workers (ofRun run tables) crew) :
    OnRecord run.store tables crew := by
  induction leads with
  | refl =>
    refine ⟨.ofRun run tables, sound, fun operation listed _ => ?_,
      fun operation conclusion held => ?_, fun id failure reported => ?_⟩
    · exact (Store.mem_of_listOpen listed).1
    · exact absurd held List.not_mem_nil
    · cases reported
  | tail earlier last inductionHypothesis => exact inductionHypothesis.step sound quiet last

/-- In a push that nobody edits during and that is not cut off, each failure that is reported
is on record: its operation is queued as failed, with the time of the attempt, and the status and
the message that are reported (`Operation.Records`). The one exception is an answer that is a
success and that the store rejects (`OfSuccess`). It is reported as a failure, and the operation
is queued exactly as before. -/
theorem failures_on_record (reachable : run.store.Reachable)
    (quiet : ∀ request state, (remote request state).1.edits = [])
    (leads : Leads remote policies workers (ofRun run tables) ending)
    (answered : ending.answer = .ok result)
    (reported : KeyedList.get? id result.failures = some failure) :
    ∃ row ∈ ending.run.store.queue, row.id = id ∧
      (failure.OfSuccess → row ∈ run.store.listOpen tables) ∧
      (¬ failure.OfSuccess → row.Records failure) := by
  have record := onRecord_of_leads reachable.queueSound quiet leads
  have same : ending.result = result := by
    unfold answer at answered
    split at answered
    · cases answered
    · exact Except.ok.inj answered
  obtain ⟨operation, settled, -, row, queued, named, success, refusal⟩ :=
    record.noted id failure (same ▸ reported)
  refine ⟨row, queued, named, fun accepted => ?_, refusal⟩
  rw [success accepted]
  exact record.perm.mem_iff.mpr (List.mem_append_right _ (List.mem_append_right _ settled))

end Crew

namespace Store.Stray

/-- A remote that carries out the first creation, without a word about the entity, and
refuses all else. -/
def taciturnRemote : Remote Unit
  | .create _ (.object [("id", .text "1")]), _ => (⟨[], false, .ok acknowledgement⟩, ())
  | _, _ => (⟨[], false, .ok ⟨500, none, none⟩⟩, ())

theorem taciturnRemote_quiet (request : Request) (state : Unit) :
    (taciturnRemote request state).1.edits = [] := by
  unfold taciturnRemote
  split <;> rfl

/-- The push of all tables that meets this remote. -/
def unheard : Run Unit := ⟨created, (), .never, [], ⟨0, 0⟩⟩

/-- The failure that is reported for the creation that was carried out. -/
def rejected : PushFailure :=
  ⟨some 201,
    "pushed, but the local store rejected the result: Invalid entity: id is required", none⟩

/-- The failure that is reported for the other creation. -/
def refused : PushFailure := ⟨some 500, "HTTP 500", none⟩

/-- Both creations are reported as failed. The refusal is on record, while the creation that
the remote has carried out stays queued as it was. -/
theorem failures_on_record_taciturn : ∃ ending,
    Crew.Leads taciturnRemote (fun _ => none) 1 (.ofRun unheard []) ending ∧ ending.Ended ∧
      ending.answer = .ok ⟨0, [(first.id, rejected), (second.id, refused)]⟩ ∧
      first ∈ ending.run.store.queue ∧
      ∃ row ∈ ending.run.store.queue, row.id = second.id ∧ row.Records refused := by
  obtain ⟨ending, leads, ended, pushed⟩ :=
    unheard.leads_push taciturnRemote (fun _ => none) Nat.one_pos []
  have answered : ending.answer = .ok ⟨0, [(first.id, rejected), (second.id, refused)]⟩ :=
    (congrArg Prod.fst pushed).trans (by decide +kernel)
  obtain ⟨row, queued, named, unchanged, -⟩ := Crew.failures_on_record reachable_created
    taciturnRemote_quiet leads answered (show KeyedList.get? first.id _ = some rejected by rfl)
  obtain ⟨other, otherQueued, otherNamed, -, records⟩ := Crew.failures_on_record reachable_created
    taciturnRemote_quiet leads answered (show KeyedList.get? second.id _ = some refused by rfl)
  have asSent : row = first :=
    reachable_created.queueSound.eq_of_id
      (mem_of_listOpen (unchanged ⟨201, rfl, by decide, by decide⟩)).1 (List.mem_cons_self ..) named
  refine ⟨ending, leads, ended, answered, asSent ▸ queued, other, otherQueued, otherNamed,
    records ?_⟩
  rintro ⟨_, ⟨⟩, success⟩
  exact absurd success (by decide)

end Store.Stray

end OfflineSync
