import OfflineSync.Remote.EntityTag
import OfflineSync.Store.Settlement
import OfflineSync.Sync.Conflict
import OfflineSync.Sync.Exchange

/-!
# Pushing operations

A push, `Run.push`, takes up the open operations in the order of their creation, each as it was
when the push began. An operation takes one request, or two where a conflict is resolved in favour
of the device, `Run.converse`, and then ends in one `Conclusion`, which `Store.conclude` writes to
the store. A push has a number of workers: as many operations may be in hand at once, and a further
one waits until the oldest of them is settled. The caller can cancel only what was not taken up.
-/

namespace OfflineSync

/-- Why an operation has no request. -/
inductive RequestFault where
  | missingPayload
  | invalidPayload (fault : OperationError)
  deriving DecidableEq, Repr

namespace RequestFault

/-- The text of a fault. -/
def message : RequestFault → String
  | .missingPayload => "missing payload"
  | .invalidPayload fault => "invalid payload: " ++ fault.message

end RequestFault

namespace Operation

/-- The document that an operation sends. -/
def bodyToSend (operation : Operation) : Except RequestFault Document :=
  match operation.payloadDocument with
  | .error fault => .error (.invalidPayload fault)
  | .ok none => .error .missingPayload
  | .ok (some body) => .ok body

/-- The request of an operation. A forced one names no version and never asks
for a creation, so that it applies whatever the remote holds. -/
def request (operation : Operation) (forced : Bool) : Except RequestFault Request :=
  let ifMatch := if forced then none else operation.entityVersion
  match operation.kind with
  | .delete => .ok (.delete operation.table operation.itemId ifMatch)
  | .replace =>
    operation.bodyToSend.map fun body => .replace operation.table operation.itemId body ifMatch
  | .add =>
    operation.bodyToSend.map fun body =>
      if forced then .replace operation.table operation.itemId body ifMatch
      else .create operation.table body

end Operation

/-- Why an operation was not pushed. -/
structure PushFailure where
  /-- The status of the last answer; there is none where nothing was answered. -/
  status : Option Nat
  message : String
  /-- The body of the last answer. -/
  serverItem : Option Document
  deriving DecidableEq, Repr

/-- How the exchange about an operation ends. -/
inductive Conclusion where
  /-- The remote has done what it was asked, and gave the entity and its version
  as it now holds them. -/
  | accepted (status : Nat) (body : Option Document) (version : Option String)
  /-- The remote's entity is to replace the local copy. -/
  | adopted (status : Nat) (body : Option Document)
  | failed (failure : PushFailure)
  deriving DecidableEq, Repr

namespace Response

/-- What the remote says about its refusal. -/
def detail? (response : Response) : Option String :=
  response.body.bind fun body => (body.textField? "message").or (body.textField? "error")

/-- The text of a refusal: the status, and what the remote says about it. -/
def failureMessage (response : Response) : String :=
  let status := "HTTP " ++ toString response.status
  match response.detail? with
  | some detail => status ++ ": " ++ detail
  | none => status

/-- A refusal as a failure of the operation. -/
def failure (response : Response) : PushFailure :=
  ⟨some response.status, response.failureMessage, response.body⟩

end Response

namespace PushFailure

/-- A failure without an answer. -/
def unanswered (message : String) : PushFailure :=
  ⟨none, message, none⟩

end PushFailure

namespace Conclusion

/-- The conclusion from an answer that no policy is asked about. -/
def ofAnswer : Except SyncError Response → Conclusion
  | .error fault => .failed (.unanswered fault.message)
  | .ok response =>
    if response.isSuccess then
      .accepted response.status (response.body.filter Document.isObject) response.version
    else .failed response.failure

end Conclusion

/-- What follows the first answer to an operation. -/
inductive FirstVerdict where
  | conclude (conclusion : Conclusion)
  | resend
  deriving DecidableEq, Repr

/-- The resolution of the first answer to an operation, where it is a conflict
and there is a policy to ask. -/
def resolutionOf (policy : Option ConflictPolicy) (operation : Operation)
    (answer : Except SyncError Response) : Option Resolution :=
  match answer, policy with
  | .ok response, some policy =>
    if response.isConflict then some (policy.resolve ⟨operation, response.status, response.body⟩)
    else none
  | _, _ => none

/-- The verdict on the first answer to an operation, by its `resolutionOf`. -/
def firstVerdict (policy : Option ConflictPolicy) (operation : Operation)
    (answer : Except SyncError Response) : FirstVerdict :=
  match answer, resolutionOf policy operation answer with
  | .ok _, some .keepLocal => .resend
  | .ok response, some .acceptRemote => .conclude (.adopted response.status response.body)
  | answer, _ => .conclude (.ofAnswer answer)

namespace Run

variable {σ : Type}

/-- Sends an operation's request, forced or not, and passes the answer on. An
operation without a request is concluded at once. -/
def sendOperation (remote : Remote σ) (run : Run σ) (operation : Operation) (forced : Bool) :
    (Except Conclusion (Except SyncError Response)) × Run σ :=
  match operation.request forced with
  | .error fault => (.error (.failed (.unanswered fault.message)), run)
  | .ok request =>
    let (answer, next) := run.send remote request
    (.ok answer, next)

/-- The exchange about one operation. A policy is asked at most once, by `firstVerdict`, and only
about the first answer. -/
def converse (remote : Remote σ) (policy : Option ConflictPolicy) (run : Run σ)
    (operation : Operation) : Conclusion × Run σ :=
  match run.sendOperation remote operation false with
  | (.error conclusion, run) => (conclusion, run)
  | (.ok answer, run) =>
    match firstVerdict policy operation answer with
    | .conclude conclusion => (conclusion, run)
    | .resend =>
      match run.sendOperation remote operation true with
      | (.error conclusion, run) => (conclusion, run)
      | (.ok answer, run) => (.ofAnswer answer, run)

/-- After `sendOperation` a run is as it was, or has sent one request. -/
theorem sendOperation_cases (remote : Remote σ) (run : Run σ) (operation : Operation)
    (forced : Bool) :
    (run.sendOperation remote operation forced).2 = run ∨
      ∃ request, (run.sendOperation remote operation forced).2 = (run.send remote request).2 := by
  unfold sendOperation
  cases operation.request forced with
  | error fault => exact .inl rfl
  | ok request => exact .inr ⟨request, rfl⟩

/-- What every request keeps of a run is kept by the exchange about an operation. -/
theorem converse_induction {remote : Remote σ} {motive : Run σ → Prop}
    (sent : ∀ run request, motive run → motive (run.send remote request).2) {run : Run σ}
    (begun : motive run) (policy : Option ConflictPolicy) (operation : Operation) :
    motive (run.converse remote policy operation).2 := by
  have sends {run : Run σ} (forced : Bool) (holds : motive run) :
      motive (run.sendOperation remote operation forced).2 := by
    rcases run.sendOperation_cases remote operation forced with same | ⟨request, same⟩
    · rwa [same]
    · rw [same]
      exact sent run request holds
  have first := sends false begun
  unfold converse
  generalize run.sendOperation remote operation false = outcome at first ⊢
  rcases outcome with ⟨refused | answer, middle⟩
  · exact first
  · dsimp only at first ⊢
    cases firstVerdict policy operation answer with
    | conclude conclusion => exact first
    | resend =>
      have second := sends true first
      dsimp only
      generalize middle.sendOperation remote operation true = outcome at second ⊢
      rcases outcome with ⟨refused | answer, next⟩
      · exact second
      · exact second

end Run

namespace Store

/-- Notes a failure on the operation that was sent. A store that cannot note it
stays as it is. -/
def noteFailure (store : Store) (sent : Operation) (failure : PushFailure) (now : Instant) : Store :=
  match store.recordFailure sent (failure.status.map Int.ofNat) failure.message now with
  | .ok (_, next) => next
  | .error _ => store

/-- Writes a conclusion to the store, a failure by `noteFailure`. The answer is the failure to
report, if the operation has failed. -/
def conclude (store : Store) (sent : Operation) (conclusion : Conclusion) (now : Instant) :
    Option PushFailure × Store :=
  match conclusion with
  | .accepted status body version =>
    match store.completePush sent body version now with
    | .ok (_, next) => (none, next)
    | .error fault =>
      (some ⟨some status,
        "pushed, but the local store rejected the result: " ++ (SyncError.ofStore fault).message,
        none⟩, store)
  | .adopted status body =>
    match store.settleWithServer sent body now with
    | .ok (_, next) => (none, next)
    | .error fault =>
      let failure : PushFailure := ⟨some status,
        "could not adopt server version: " ++ (SyncError.ofStore fault).message, body⟩
      (some failure, store.noteFailure sent failure now)
  | .failed failure => (some failure, store.noteFailure sent failure now)

end Store

/-- What a push did. -/
structure PushResult where
  /-- How many operations were settled. -/
  completed : Nat
  /-- The operations that failed, by identity. -/
  failures : KeyedList String PushFailure
  deriving DecidableEq, Repr

namespace PushResult

/-- The result of a push that sent nothing. -/
def empty : PushResult := ⟨0, []⟩

/-- Whether no operation failed. -/
def isSuccessful (result : PushResult) : Bool :=
  result.failures.isEmpty

/-- How many operations were sent. -/
def dispatched (result : PushResult) : Nat :=
  result.completed + result.failures.length

/-- Notes how one more operation ended. -/
def note (result : PushResult) (operation : Operation) : Option PushFailure → PushResult
  | none => { result with completed := result.completed + 1 }
  | some failure =>
    { result with failures := KeyedList.insert operation.id failure result.failures }

end PushResult

/-- Which policy applies to the operations of a table. -/
abbrev PolicyChoice := String → Option ConflictPolicy

/-- A push under way. -/
structure Pushing (σ : Type) where
  run : Run σ
  /-- The operations that were taken up and whose exchange has not begun, oldest
  first. -/
  started : List Operation
  /-- The operations whose exchange is over, each with the conclusion that is to be
  written to the store, oldest first. -/
  answered : List (Operation × Conclusion)
  /-- How the settled operations ended. -/
  result : PushResult

namespace Pushing

variable {σ : Type}

/-- A push that has taken up nothing. -/
def ofRun (run : Run σ) : Pushing σ := ⟨run, [], [], .empty⟩

/-- How many operations are in hand. -/
def inHand (pushing : Pushing σ) : Nat :=
  pushing.started.length + pushing.answered.length

/-- Takes up an operation. -/
def takeUp (pushing : Pushing σ) (operation : Operation) : Pushing σ :=
  { pushing with started := pushing.started ++ [operation] }

/-- Carries out the exchange about one operation. -/
def exchange (remote : Remote σ) (policies : PolicyChoice) (pushing : Pushing σ)
    (operation : Operation) : Pushing σ :=
  let (conclusion, run) := pushing.run.converse remote (policies operation.table) operation
  { pushing with run, answered := pushing.answered ++ [(operation, conclusion)] }

/-- Carries out the exchanges about all operations in hand, each by `exchange`. -/
def exchangeAll (remote : Remote σ) (policies : PolicyChoice) (pushing : Pushing σ) : Pushing σ :=
  pushing.started.foldl (exchange remote policies) { pushing with started := [] }

/-- Writes a conclusion to the store. -/
def settle (pushing : Pushing σ) (operation : Operation) (conclusion : Conclusion) : Pushing σ :=
  let (failure, store) := pushing.run.store.conclude operation conclusion pushing.run.now
  { pushing with
    run := { pushing.run with store }
    result := pushing.result.note operation failure }

/-- Writes the oldest conclusion to the store. -/
def settleOldest (pushing : Pushing σ) : Pushing σ :=
  match pushing.answered with
  | [] => pushing
  | (operation, conclusion) :: answered => { pushing with answered }.settle operation conclusion

/-- Writes every conclusion to the store. -/
def settleAll (pushing : Pushing σ) : Pushing σ :=
  pushing.answered.foldl (fun pushing entry => pushing.settle entry.1 entry.2)
    { pushing with answered := [] }

/-- Finishes what is in hand, by `exchangeAll` and `settleAll`. -/
def finish (remote : Remote σ) (policies : PolicyChoice) (pushing : Pushing σ) : Pushing σ :=
  (pushing.exchangeAll remote policies).settleAll

/-- Waits until a worker is free for one more operation. -/
def makeRoom (remote : Remote σ) (policies : PolicyChoice) (workers : Nat)
    (pushing : Pushing σ) : Pushing σ :=
  if pushing.inHand < workers then pushing
  else (pushing.exchangeAll remote policies).settleOldest

/-- Takes up operations in order until the caller cancels, waiting by `makeRoom`, and finishes what
was taken up. The answer tells whether any operation was left. -/
def pushEach (remote : Remote σ) (policies : PolicyChoice) (workers : Nat) :
    List Operation → Pushing σ → Bool × Pushing σ
  | [], pushing => (false, pushing.finish remote policies)
  | operation :: rest, pushing =>
    let pushing := pushing.makeRoom remote policies workers
    if pushing.run.signal.isFired then (true, pushing.finish remote policies)
    else pushEach remote policies workers rest (pushing.takeUp operation)

end Pushing

/-- Pushes the open operations of some tables, by `pushEach`. -/
def Run.push {σ : Type} (remote : Remote σ) (policies : PolicyChoice) (workers : Nat)
    (tables : List String) (run : Run σ) : Except SyncError PushResult × Run σ :=
  let (cancelled, pushing) :=
    Pushing.pushEach remote policies workers (run.store.listOpen tables) (.ofRun run)
  (if cancelled then .error .cancelled else .ok pushing.result, pushing.run)

end OfflineSync
