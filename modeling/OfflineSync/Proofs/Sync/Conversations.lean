import OfflineSync.Proofs.Store.AcceptedAnswers
import OfflineSync.Proofs.Sync.PushOrder

/-!
# The exchange about one operation

What is said about an operation is a list of turns, each a request and its result, a `Turn`. As
`Operation.Converses` says, there is no turn where the operation has no request, and there are two
only where the policy keeps the local copy after a conflict. The last result and the `resolution`
decide how the exchange ends, and the policy has no other part in it, `converse_congr`.
-/

namespace OfflineSync

/-- A request that was sent, and its result. -/
structure Turn where
  request : Request
  result : Except SyncError Response

/-- The status of a result, if anything was answered. -/
def Turn.status? (turn : Turn) : Option Nat :=
  match turn.result with
  | .ok response => some response.status
  | .error _ => none

/-- The method of the request of an operation. -/
def OperationKind.method (forced : Bool) : OperationKind → Method
  | .add => if forced then .put else .post
  | .replace => .put
  | .delete => .delete

namespace Operation

/-- Whether a document is wanted of an operation, but its payload is missing or not a
document. -/
def Unsendable (operation : Operation) : Prop :=
  operation.kind ≠ .delete ∧ ∀ text, operation.payload = some text → Document.read text = none

/-- What a request of an operation is. A forced one expects no version. -/
structure Makes (operation : Operation) (forced : Bool) (request : Request) : Prop where
  method : request.method = operation.kind.method forced
  table : request.table = operation.table
  /-- Only a creation names no entity. -/
  item : request.itemId? = if request.method = .post then none else some operation.itemId
  body : request.body? =
    if operation.kind = .delete then none else operation.payload.bind Document.read
  version : request.ifMatch? =
    if forced ∨ operation.kind = .add then none else operation.entityVersion

/-- The conflict that a result poses. -/
def conflict? (operation : Operation) : Except SyncError Response → Option Conflict
  | .ok response =>
    if response.status = 409 ∨ response.status = 412 then
      some ⟨operation, response.status, response.body⟩
    else none
  | .error _ => none

/-- How a policy resolves the conflict that a result poses. -/
def resolved (operation : Operation) (policy : Option ConflictPolicy)
    (result : Except SyncError Response) : Option Resolution :=
  policy.bind fun policy => (operation.conflict? result).map policy.resolve

/-- The resolution of the conflict that the first result poses. -/
def resolution (operation : Operation) (policy : Option ConflictPolicy) (turns : List Turn) :
    Option Resolution :=
  turns.head?.bind fun first => operation.resolved policy first.result

/-- What is said about an operation under a policy, and how it is concluded. -/
structure Converses (operation : Operation) (policy : Option ConflictPolicy) (turns : List Turn)
    (conclusion : Conclusion) : Prop where
  silent : turns = [] ↔ operation.Unsendable
  brief : turns.length ≤ 2
  first : ∀ turn, turns.head? = some turn → operation.Makes false turn.request
  second : ∀ turn, turns[1]? = some turn → operation.Makes true turn.request
  repeats : turns.length = 2 ↔ operation.resolution policy turns = some .keepLocal
  accepts : ∀ status body header, conclusion = .accepted status body header ↔
    ∃ request response, turns.getLast? = some ⟨request, .ok response⟩ ∧
      200 ≤ response.status ∧ response.status < 300 ∧
      response.status = status ∧ response.entity? = body ∧ response.version = header
  adopts : ∀ status body, conclusion = .adopted status body ↔
    operation.resolution policy turns = some .acceptRemote ∧
      ∃ request response, turns.head? = some ⟨request, .ok response⟩ ∧
        response.status = status ∧ response.body = body
  fails : ∀ failure, conclusion = .failed failure →
    failure.status = turns.getLast?.bind Turn.status?

end Operation

/-! ### The requests of an operation -/

namespace Operation

variable {operation : Operation} {forced : Bool} {request : Request} {body : Document}

/-- The document to send, `bodyToSend`, is that of the payload. -/
theorem bodyToSend_eq_ok :
    operation.bodyToSend = .ok body ↔ operation.payload.bind Document.read = some body := by
  unfold bodyToSend payloadDocument readPayload
  cases operation.payload with
  | none => simp
  | some text => cases read : Document.read text <;> simp [read]

/-- A document is wanted and missing exactly where there is none in the payload. -/
theorem unsendable_iff :
    operation.Unsendable ↔
      operation.kind ≠ .delete ∧ operation.payload.bind Document.read = none := by
  unfold Unsendable
  cases operation.payload with
  | none => simp
  | some text => simp

/-- An operation has a request, forced or not, unless it is `Unsendable`. -/
theorem exists_request : (∃ request, operation.request forced = .ok request) ↔
    ¬ operation.Unsendable := by
  rw [unsendable_iff]
  unfold request
  cases kind : operation.kind with
  | delete => simp
  | add | replace =>
    simp only [map_eq_ok, bodyToSend_eq_ok]
    cases operation.payload.bind Document.read with
    | none => simp
    | some body => simp

/-- The request of an operation is as its kind wants it (`Makes`). -/
theorem makes_of_request (asks : operation.request forced = .ok request) :
    operation.Makes forced request := by
  unfold Operation.request at asks
  cases kind : operation.kind with
  | delete =>
    simp only [kind] at asks
    cases asks
    constructor <;>
      simp [kind, OperationKind.method, Request.method, Request.table, Request.itemId?,
        Request.body?, Request.ifMatch?]
  | add | replace =>
    simp only [kind] at asks
    obtain ⟨body, sends, rfl⟩ := map_eq_ok.mp asks
    have carried : operation.payload.bind Document.read = some body := bodyToSend_eq_ok.mp sends
    cases forced <;> constructor <;>
      simp [kind, carried, OperationKind.method, Request.method, Request.table, Request.itemId?,
        Request.body?, Request.ifMatch?]

/-! ### The verdict on the first result -/

variable {policy other : Option ConflictPolicy} {result : Except SyncError Response}
  {response : Response} {conclusion : Conclusion}

/-- A policy is asked, by `resolutionOf`, about the conflict that the first result poses. -/
theorem resolutionOf_eq (operation : Operation) (policy : Option ConflictPolicy)
    (result : Except SyncError Response) :
    resolutionOf policy operation result = operation.resolved policy result := by
  unfold resolutionOf resolved conflict?
  cases result with
  | error fault => cases policy <;> rfl
  | ok response =>
    cases policy with
    | none => rfl
    | some policy =>
      dsimp only [Option.bind_some]
      by_cases conflicts : response.status = 409 ∨ response.status = 412
      · rw [if_pos conflicts, if_pos (by simpa [Response.isConflict] using conflicts)]
        rfl
      · rw [if_neg conflicts, if_neg (by simpa [Response.isConflict] using conflicts)]
        rfl

/-- Only an answer with the status of a conflict is resolved. -/
theorem exists_response_of_resolved {resolution : Resolution}
    (resolves : operation.resolved policy result = some resolution) :
    ∃ response, result = .ok response ∧ (response.status = 409 ∨ response.status = 412) := by
  obtain ⟨policy, -, resolves⟩ := Option.bind_eq_some_iff.mp resolves
  obtain ⟨conflict, posed, -⟩ := Option.map_eq_some_iff.mp resolves
  cases result with
  | error fault => cases posed
  | ok response =>
    refine ⟨response, rfl, ?_⟩
    by_contra plain
    simp [conflict?, plain] at posed

/-- An operation is sent again, by `firstVerdict`, exactly where the policy keeps the local copy. -/
theorem firstVerdict_eq_resend :
    firstVerdict policy operation result = .resend ↔
      operation.resolved policy result = some .keepLocal := by
  unfold firstVerdict
  rw [resolutionOf_eq]
  constructor
  · intro resends
    split at resends
    · assumption
    · cases resends
    · cases resends
  · intro keeps
    obtain ⟨response, rfl, -⟩ := exists_response_of_resolved keeps
    rw [keeps]

/-- Otherwise the first result concludes the exchange: its body is adopted where the policy
accepts it, and else the result stands for itself. -/
theorem firstVerdict_eq_conclude :
    firstVerdict policy operation result = .conclude conclusion ↔
      (∃ response, result = .ok response ∧
        operation.resolved policy result = some .acceptRemote ∧
        conclusion = .adopted response.status response.body) ∨
      operation.resolved policy result ≠ some .keepLocal ∧
        operation.resolved policy result ≠ some .acceptRemote ∧ conclusion = .ofAnswer result := by
  unfold firstVerdict
  rw [resolutionOf_eq]
  cases resolves : operation.resolved policy result with
  | none => cases result <;> simp [eq_comm]
  | some resolution =>
    obtain ⟨response, rfl, -⟩ := exists_response_of_resolved resolves
    cases resolution <;> simp [eq_comm]

/-- The verdict depends on a policy only through the resolution. -/
theorem firstVerdict_congr
    (alike : operation.resolved other result = operation.resolved policy result) :
    firstVerdict other operation result = firstVerdict policy operation result := by
  unfold firstVerdict
  rw [resolutionOf_eq, resolutionOf_eq, alike]

end Operation

namespace Conclusion

variable {result : Except SyncError Response} {turn : Turn} {failure : PushFailure}
  {status : Nat} {body : Option Document} {header : Option String}

/-- A result that no policy is asked about is accepted exactly if it is a success. -/
theorem ofAnswer_eq_accepted :
    ofAnswer result = .accepted status body header ↔
      ∃ response, result = .ok response ∧ 200 ≤ response.status ∧ response.status < 300 ∧
        response.status = status ∧ response.entity? = body ∧ response.version = header := by
  cases result with
  | error fault =>
    constructor
    · intro same
      cases same
    · rintro ⟨_, same, -⟩
      cases same
  | ok response =>
    by_cases success : 200 ≤ response.status ∧ response.status < 300
    · simp [ofAnswer, Response.isSuccess, success, Response.entity?]
    · simp only [ofAnswer, Response.isSuccess, Bool.and_eq_true, decide_eq_true_eq, success,
        if_false]
      constructor
      · intro same
        cases same
      · rintro ⟨_, same, least, below, -⟩
        cases same
        exact absurd ⟨least, below⟩ success

/-- A result that no policy is asked about is never adopted. -/
theorem ofAnswer_ne_adopted : ofAnswer result ≠ .adopted status body := by
  cases result with
  | error fault => nofun
  | ok response =>
    unfold ofAnswer
    dsimp only
    split <;> nofun

/-- A failure is reported under the status of the result. -/
theorem status_of_ofAnswer (fails : ofAnswer turn.result = .failed failure) :
    failure.status = turn.status? := by
  unfold Turn.status?
  cases answered : turn.result with
  | error fault =>
    rw [answered] at fails
    cases fails
    rfl
  | ok response =>
    rw [answered] at fails
    unfold ofAnswer at fails
    dsimp only at fails
    split at fails
    · cases fails
    · cases fails
      rfl

end Conclusion

/-! ### The turns of an exchange -/

namespace Run

variable {σ : Type} {remote : Remote σ} {run after : Run σ} {turns : List Turn}
  {operation : Operation} {policy other : Option ConflictPolicy}

/-- Whether a run has gone on by some turns, each begun on what the one before it left. -/
inductive Carries (remote : Remote σ) : Run σ → List Turn → Run σ → Prop where
  | nil (run : Run σ) : Carries remote run [] run
  | cons {run after : Run σ} {turns : List Turn} (request : Request)
      (rest : Carries remote (run.send remote request).2 turns after) :
      Carries remote run (⟨request, (run.send remote request).1⟩ :: turns) after

/-- The turns of a run are what it has sent: it `Carries` them. -/
theorem Carries.requests (carries : Carries remote run turns after) :
    after.requests = run.requests ++ turns.map Turn.request := by
  induction carries with
  | nil run => exact (List.append_nil _).symm
  | cons request rest inductionHypothesis =>
    simp [inductionHypothesis]

end Run

namespace Operation

variable {operation : Operation} {policy : Option ConflictPolicy}

/-- Nothing is said about an operation without a request. -/
theorem Converses.unsent {fault : RequestFault} (lacks : operation.request false = .error fault) :
    operation.Converses policy [] (.failed (.unanswered fault.message)) where
  silent := by
    refine ⟨fun _ => ?_, fun _ => rfl⟩
    by_contra sendable
    obtain ⟨request, asks⟩ := exists_request.mpr sendable
    cases lacks.symm.trans asks
  brief := Nat.zero_le 2
  first := by simp
  second := by simp
  repeats := ⟨nofun, nofun⟩
  accepts _ _ _ := ⟨nofun, nofun⟩
  adopts _ _ := ⟨nofun, nofun⟩
  fails _ same := by cases same; rfl

/-- An operation that is sent once is concluded by the verdict on the result. -/
theorem Converses.once {request : Request} {result : Except SyncError Response}
    {conclusion : Conclusion} (asks : operation.request false = .ok request)
    (verdict : firstVerdict policy operation result = .conclude conclusion) :
    operation.Converses policy [⟨request, result⟩] conclusion where
  silent := ⟨nofun, fun lacks => absurd lacks (exists_request.mp ⟨request, asks⟩)⟩
  brief := Nat.le_succ 1
  first turn same := by
    cases same
    exact makes_of_request asks
  second := by simp
  repeats := by
    refine ⟨nofun, fun keeps => ?_⟩
    cases verdict.symm.trans (firstVerdict_eq_resend.mpr keeps)
  accepts status body header := by
    rcases firstVerdict_eq_conclude.mp verdict with ⟨response, rfl, resolves, rfl⟩ | ⟨-, -, rfl⟩
    · refine ⟨nofun, ?_⟩
      rintro ⟨_, _, same, -, success, -⟩
      cases same
      -- What a policy resolves has the status of a conflict, which is none of a success.
      obtain ⟨_, same, conflicts⟩ := exists_response_of_resolved resolves
      cases same
      omega
    · rw [Conclusion.ofAnswer_eq_accepted]
      constructor
      · rintro ⟨response, rfl, rest⟩
        exact ⟨request, response, rfl, rest⟩
      · rintro ⟨_, response, same, rest⟩
        cases same
        exact ⟨response, rfl, rest⟩
  adopts status body := by
    rcases firstVerdict_eq_conclude.mp verdict with ⟨response, rfl, resolves, rfl⟩ | ⟨-, differs, rfl⟩
    · constructor
      · intro same
        cases same
        exact ⟨resolves, request, response, rfl, rfl, rfl⟩
      · rintro ⟨-, _, _, same, rfl, rfl⟩
        cases same
        rfl
    · exact ⟨fun same => absurd same Conclusion.ofAnswer_ne_adopted,
        fun accepts => absurd accepts.1 differs⟩
  fails failure same := by
    rcases firstVerdict_eq_conclude.mp verdict with ⟨response, rfl, -, rfl⟩ | ⟨-, -, rfl⟩
    · cases same
    · exact Conclusion.status_of_ofAnswer same

/-- An operation that is sent again is concluded by the second result, by `ofAnswer`. -/
theorem Converses.twice {request forced : Request} {result final : Except SyncError Response}
    (asks : operation.request false = .ok request) (again : operation.request true = .ok forced)
    (verdict : firstVerdict policy operation result = .resend) :
    operation.Converses policy [⟨request, result⟩, ⟨forced, final⟩] (.ofAnswer final) where
  silent := ⟨nofun, fun lacks => absurd lacks (exists_request.mp ⟨request, asks⟩)⟩
  brief := Nat.le_refl 2
  first turn same := by
    cases same
    exact makes_of_request asks
  second turn same := by
    cases same
    exact makes_of_request again
  repeats := ⟨fun _ => firstVerdict_eq_resend.mp verdict, fun _ => rfl⟩
  accepts status body header := by
    rw [Conclusion.ofAnswer_eq_accepted]
    constructor
    · rintro ⟨response, rfl, rest⟩
      exact ⟨forced, response, rfl, rest⟩
    · rintro ⟨_, response, same, rest⟩
      cases same
      exact ⟨response, rfl, rest⟩
  adopts status body := by
    refine ⟨fun same => absurd same Conclusion.ofAnswer_ne_adopted, ?_⟩
    rintro ⟨accepts, -⟩
    cases (firstVerdict_eq_resend.mp verdict).symm.trans accepts
  fails failure same := Conclusion.status_of_ofAnswer same

end Operation

namespace Run

variable {σ : Type} {run : Run σ} {operation : Operation} {policy other : Option ConflictPolicy}

/-- Policies that resolve the first result alike lead to the same exchange, by
`firstVerdict_congr`. -/
theorem converse_congr {remote : Remote σ}
    (alike : ∀ request, operation.request false = .ok request →
      operation.resolved other (run.send remote request).1 =
        operation.resolved policy (run.send remote request).1) :
    run.converse remote other operation = run.converse remote policy operation := by
  unfold converse sendOperation
  cases asks : operation.request false with
  | error fault => rfl
  | ok request =>
    dsimp only
    rw [Operation.firstVerdict_congr (alike request asks)]

/-- The exchange about an operation goes on by the turns that the policy asks for (`Converses`). -/
theorem exists_turns (remote : Remote σ) (policy : Option ConflictPolicy) (run : Run σ)
    (operation : Operation) :
    ∃ turns, Carries remote run turns (run.converse remote policy operation).2 ∧
      operation.Converses policy turns (run.converse remote policy operation).1 ∧
      ∀ request, operation.request false = .ok request →
        turns.head? = some ⟨request, (run.send remote request).1⟩ := by
  unfold converse sendOperation
  cases asks : operation.request false with
  | error fault => exact ⟨[], .nil run, .unsent asks, nofun⟩
  | ok request =>
    dsimp only
    cases verdict : firstVerdict policy operation (run.send remote request).1 with
    | conclude conclusion =>
      refine ⟨_, .cons request (.nil _), .once asks verdict, fun other same => ?_⟩
      cases same
      rfl
    | resend =>
      -- An operation that has a request has a forced one too.
      obtain ⟨forced, again⟩ := Operation.exists_request.mpr
        (Operation.exists_request.mp ⟨request, asks⟩)
      rw [again]
      refine ⟨_, .cons request (.cons forced (.nil _)), .twice asks again verdict,
        fun other same => ?_⟩
      cases same
      rfl

end Run

/-! ### What is written of the end -/

namespace Conclusion

/-- The result that a conclusion has the store write. -/
def outcome : Conclusion → Store.Outcome
  | .accepted _ body header => .accepted body header
  | .adopted _ body => .conceded body
  | .failed failure => .refused (failure.status.map Int.ofNat) failure.message

/-- The failure that a conclusion reports, whatever the store makes of it. -/
def failure? : Conclusion → Option PushFailure
  | .failed failure => some failure
  | .accepted .. | .adopted .. => none

/-- The status under which a conclusion is reported. -/
def status? : Conclusion → Option Nat
  | .accepted status .. | .adopted status _ => some status
  | .failed failure => failure.status

end Conclusion

namespace Store

variable {store next : Store} {sent : Operation} {conclusion : Conclusion} {now : Instant}

/-- A conclusion is written as its result is received, by `receive`. -/
theorem conclude_of_receive (received : store.receive sent conclusion.outcome now = .ok next) :
    store.conclude sent conclusion now = (conclusion.failure?, next) := by
  cases conclusion with
  | accepted status body header =>
    obtain ⟨⟨settlement, _⟩, completed, rfl⟩ := map_eq_ok.mp received
    simp only [conclude, completed]
    rfl
  | adopted status body =>
    obtain ⟨⟨settlement, _⟩, settled, rfl⟩ := map_eq_ok.mp received
    simp only [conclude, settled]
    rfl
  | failed failure =>
    obtain ⟨⟨marked, _⟩, noted, rfl⟩ := map_eq_ok.mp received
    simp only [conclude, noteFailure, noted]
    rfl

/-- An operation is done with exactly if it has not failed and its result is written. -/
theorem conclude_eq_none :
    (store.conclude sent conclusion now).1 = none ↔
      conclusion.failure? = none ∧
        ∃ next, store.receive sent conclusion.outcome now = .ok next := by
  constructor
  · intro done
    cases received : store.receive sent conclusion.outcome now with
    | ok next =>
      rw [conclude_of_receive received] at done
      exact ⟨done, next, rfl⟩
    | error fault =>
      cases conclusion with
      | accepted status body header =>
        cases completed : store.completePush sent body header now with
        | ok settled => simp [receive, Conclusion.outcome, completed, Except.map] at received
        | error fault => simp [conclude, completed] at done
      | adopted status body =>
        cases settles : store.settleWithServer sent body now with
        | ok settled => simp [receive, Conclusion.outcome, settles, Except.map] at received
        | error fault => simp [conclude, settles] at done
      | failed failure => cases done
  · rintro ⟨succeeds, next, received⟩
    rw [conclude_of_receive received]
    exact succeeds

/-- A failure is reported under the status of the conclusion. -/
theorem status_of_conclude {failure : PushFailure}
    (reports : (store.conclude sent conclusion now).1 = some failure) :
    failure.status = conclusion.status? := by
  unfold conclude at reports
  cases conclusion with
  | accepted status body header =>
    dsimp only at reports
    split at reports
    · cases reports
    · cases reports
      rfl
  | adopted status body =>
    dsimp only at reports
    split at reports
    · cases reports
    · cases reports
      rfl
  | failed failure =>
    cases reports
    rfl

end Store

/-- An exchange is reported under the status of its last result. -/
theorem Operation.Converses.status?_eq {operation : Operation} {policy : Option ConflictPolicy}
    {turns : List Turn} {conclusion : Conclusion}
    (converses : operation.Converses policy turns conclusion) :
    conclusion.status? = turns.getLast?.bind Turn.status? := by
  cases conclusion with
  | accepted status body header =>
    obtain ⟨request, response, last, -, -, rfl, -⟩ := (converses.accepts ..).mp rfl
    rw [last]
    rfl
  | adopted status body =>
    obtain ⟨accepts, request, response, first, rfl, -⟩ := (converses.adopts ..).mp rfl
    -- There is no second turn, so the answer that is adopted is the last one.
    have alone : turns.length ≠ 2 := fun both => by
      cases accepts.symm.trans (converses.repeats.mp both)
    have brief := converses.brief
    rcases turns with - | ⟨turn, - | ⟨forced, rest⟩⟩
    · cases first
    · cases first
      rfl
    · simp only [List.length_cons] at alone brief
      omega
  | failed failure => exact converses.fails failure rfl

/-- Whatever the remote answers, the exchange about an operation consists of the turns that
its kind, its payload and the policy ask for (`Operation.Converses`), and is concluded by the last
result and the resolution alone; only the resolution of the conflict that the first result poses
matters of a policy. The store writes the conclusion down as the result that it stands for, and a
failure is reported under the status of the last result. -/
theorem Run.converse_turns {σ : Type} (remote : Remote σ) (policy : Option ConflictPolicy)
    (run : Run σ) (operation : Operation) :
    ∃ turns, Carries remote run turns (run.converse remote policy operation).2 ∧
      (run.converse remote policy operation).2.requests =
        run.requests ++ turns.map Turn.request ∧
      operation.Converses policy turns (run.converse remote policy operation).1 ∧
      (∀ other, operation.resolution other turns = operation.resolution policy turns →
        run.converse remote other operation = run.converse remote policy operation) ∧
      ∀ (store : Store) (now : Instant),
        let conclusion := (run.converse remote policy operation).1
        (∀ next, store.receive operation conclusion.outcome now = .ok next →
          store.conclude operation conclusion now = (conclusion.failure?, next)) ∧
        ((store.conclude operation conclusion now).1 = none ↔ conclusion.failure? = none ∧
          ∃ next, store.receive operation conclusion.outcome now = .ok next) ∧
        ∀ failure, (store.conclude operation conclusion now).1 = some failure →
          failure.status = turns.getLast?.bind Turn.status? := by
  obtain ⟨turns, carries, converses, begins⟩ := run.exists_turns remote policy operation
  refine ⟨turns, carries, carries.requests, converses, fun other alike => ?_, fun store now => ?_⟩
  · refine converse_congr fun request asks => ?_
    simpa [Operation.resolution, begins request asks] using alike
  · refine ⟨fun next received => Store.conclude_of_receive received, Store.conclude_eq_none,
      fun failure reports => ?_⟩
    rw [Store.status_of_conclude reports, converses.status?_eq]

end OfflineSync
