import OfflineSync.Proofs.Store.Numbering
import OfflineSync.Sync.Push

/-!
# Pushes in the order of creation

A push takes up the operations that it has listed one after the other and sends for each
the requests that it takes (`Operation.Asks`): none where the operation has no request, else
its own, and perhaps a forced one behind it. A push with one worker is `Run.pushInTurn`: it
concludes each operation before it takes up the next, and looks at the caller's signal in
between. As `Store.listOpen` is in the order of creation, such a push makes its requests in
that order, and leaves an operation only because the signal has fired.
-/

namespace OfflineSync

/-- The requests that the exchange about an operation may take. -/
inductive Operation.Asks (operation : Operation) : List Request → Prop where
  | unsent {fault : RequestFault} (first : operation.request false = .error fault) :
      Asks operation []
  | once {request : Request} (first : operation.request false = .ok request) :
      Asks operation [request]
  | twice {request forced : Request} (first : operation.request false = .ok request)
      (again : operation.request true = .ok forced) : Asks operation [request, forced]

namespace Run

variable {σ : Type} {run middle next : Run σ} {operations more : List Operation}

/-- The requests that were sent so far. -/
def requests (run : Run σ) : List Request :=
  run.exchanges.map Exchange.request

/-- Whether the requests that were sent since are those of some operations, one after the
other. -/
def Sends (run next : Run σ) (operations : List Operation) : Prop :=
  ∃ blocks, List.Forall₂ Operation.Asks operations blocks ∧
    next.requests = run.requests ++ blocks.flatten

theorem Sends.of_same (same : next.exchanges = run.exchanges) : Sends run next [] :=
  ⟨[], .nil, by simp [requests, same]⟩

theorem Sends.trans (first : Sends run middle operations) (second : Sends middle next more) :
    Sends run next (operations ++ more) := by
  obtain ⟨blocks, asks, sent⟩ := first
  obtain ⟨others, asksMore, sentMore⟩ := second
  refine ⟨blocks ++ others, List.rel_append asks asksMore, ?_⟩
  rw [sentMore, sent, List.flatten_append, List.append_assoc]

theorem Sends.single {operation : Operation} {block : List Request} (asks : operation.Asks block)
    (sent : next.requests = run.requests ++ block) : Sends run next [operation] :=
  ⟨[block], .cons asks .nil, by rw [sent, List.flatten_cons, List.flatten_nil, List.append_nil]⟩

variable (remote : Remote σ)

/-- A request that `send` sends stands behind those before it. -/
@[simp] theorem requests_send (run : Run σ) (request : Request) :
    (run.send remote request).2.requests = run.requests ++ [request] := by
  simp [send, requests]

/-- The exchange about an operation `Sends` its requests. -/
theorem sends_converse (policy : Option ConflictPolicy) (run : Run σ) (operation : Operation) :
    Sends run (run.converse remote policy operation).2 [operation] := by
  unfold converse sendOperation
  cases first : operation.request false with
  | error fault => exact .single (.unsent first) (by simp)
  | ok request =>
    dsimp only
    cases firstVerdict policy operation (run.send remote request).1 with
    | conclude conclusion => exact .single (.once first) (run.requests_send remote request)
    | resend =>
      cases again : operation.request true with
      | error fault => exact .single (.once first) (run.requests_send remote request)
      | ok forced => exact .single (.twice first again) (by simp)

/-! ### Operations in turn -/

/-- Pushes one operation: the exchange about it, and then the writing of its conclusion. -/
def pushOne (policies : PolicyChoice) (run : Run σ) (operation : Operation) : Run σ :=
  let (conclusion, next) := run.converse remote (policies operation.table) operation
  { next with store := (next.store.conclude operation conclusion next.now).2 }

/-- Pushes operations one after the other, each by `pushOne`. -/
def pushInTurn (policies : PolicyChoice) (run : Run σ) (operations : List Operation) : Run σ :=
  operations.foldl (pushOne remote policies) run

/-- Whether a run has pushed operations one after the other and left others: before each of
those that it pushed the signal had not fired, and it left others only after it had. -/
structure PushesInTurn (policies : PolicyChoice) (run next : Run σ) (taken left : List Operation) :
    Prop where
  reaches : next = run.pushInTurn remote policies taken
  goesOn : ∀ earlier operation later, taken = earlier ++ operation :: later →
    (run.pushInTurn remote policies earlier).signal.isFired = false
  stops : left ≠ [] → next.signal.isFired

/-- Whether nobody cancels a run: its signal has not fired, and it is one that never does or
the caller does not fire it in any flight. -/
def NeverFires (run : Run σ) : Prop :=
  run.signal.isFired = false ∧
    (run.signal = .never ∨ ∀ request state, (remote request state).1.cancels = false)

variable {remote} {policies : PolicyChoice}

/-- Operations that are pushed by `pushInTurn` send their requests in their order. -/
theorem sends_pushInTurn (run : Run σ) (operations : List Operation) :
    Sends run (run.pushInTurn remote policies operations) operations := by
  induction operations generalizing run with
  | nil => exact .of_same rfl
  | cons operation rest inductionHypothesis =>
    have first : Sends run (run.pushOne remote policies operation) [operation] :=
      run.sends_converse remote (policies operation.table) operation
    exact first.trans (inductionHypothesis (run.pushOne remote policies operation))

/-- A request does not let a signal fire that nobody fires. -/
theorem NeverFires.send (never : run.NeverFires remote) (request : Request) :
    (run.send remote request).2.NeverFires remote := by
  obtain ⟨unfired, never | spared⟩ := never
  · have same : (run.send remote request).2.signal = .never := by
      simp only [Run.send, never, CancelSignal.fire, ite_self]
    exact ⟨by rw [same]; rfl, .inl same⟩
  · have same : (run.send remote request).2.signal = run.signal := by
      simp only [Run.send, spared, Bool.false_eq_true, if_false]
    exact ⟨same ▸ unfired, .inr spared⟩

/-- Nor does the push of an operation. -/
theorem NeverFires.pushOne (never : run.NeverFires remote) (operation : Operation) :
    (run.pushOne remote policies operation).NeverFires remote := by
  have converses :
      (run.converse remote (policies operation.table) operation).2.NeverFires remote :=
    Run.converse_induction (fun _ request kept => kept.send request) never _ operation
  exact converses

theorem NeverFires.pushInTurn (never : run.NeverFires remote) (operations : List Operation) :
    (run.pushInTurn remote policies operations).NeverFires remote := by
  induction operations generalizing run with
  | nil => exact never
  | cons operation rest inductionHypothesis => exact inductionHypothesis (never.pushOne operation)

/-- A run that nobody cancels leaves no operation. -/
theorem PushesInTurn.left_eq_nil {taken left : List Operation}
    (pushes : PushesInTurn remote policies run next taken left) (never : run.NeverFires remote) :
    left = [] := by
  by_contra remains
  have fired := pushes.stops remains
  rw [pushes.reaches, (never.pushInTurn taken).1] at fired
  cases fired

end Run

namespace Pushing

variable {σ : Type} (remote : Remote σ) (policies : PolicyChoice)

/-- Exchanges leave nothing that was taken up without one. -/
@[simp] theorem started_exchangeAll (pushing : Pushing σ) :
    (pushing.exchangeAll remote policies).started = [] := by
  have kept (operations : List Operation) (pushing : Pushing σ) :
      (operations.foldl (exchange remote policies) pushing).started = pushing.started := by
    induction operations generalizing pushing with
    | nil => rfl
    | cons operation rest inductionHypothesis => exact inductionHypothesis _
  exact kept pushing.started { pushing with started := [] }

/-- Whether the one worker of a push has at most one operation in hand, whose exchange has
not begun. -/
structure Single (pushing : Pushing σ) : Prop where
  few : pushing.started.length ≤ 1
  unanswered : pushing.answered = []

variable {pushing : Pushing σ}

/-- Nothing is in hand, or the exchange about one operation has yet to begin. -/
theorem Single.cases (single : pushing.Single) :
    pushing.started = [] ∧ pushing.inHand = 0 ∨
      ∃ operation, pushing.started = [operation] ∧ pushing.inHand = 1 ∧
        pushing.exchangeAll remote policies =
          { pushing with
            run := (pushing.run.converse remote (policies operation.table) operation).2
            started := []
            answered := [(operation,
              (pushing.run.converse remote (policies operation.table) operation).1)] } := by
  obtain ⟨few, unanswered⟩ := single
  cases started : pushing.started with
  | nil => exact .inl ⟨rfl, by simp [inHand, started, unanswered]⟩
  | cons operation rest =>
    have alone : rest = [] := by simpa [started] using few
    subst alone
    refine .inr ⟨operation, rfl, by simp [inHand, started, unanswered], ?_⟩
    simp [exchangeAll, exchange, started, unanswered]

/-- What the one worker has in hand is concluded where a push waits for it. -/
theorem Single.makeRoom (single : pushing.Single) :
    (pushing.makeRoom remote policies 1).started = [] ∧
      (pushing.makeRoom remote policies 1).answered = [] ∧
      (pushing.makeRoom remote policies 1).run =
        pushing.run.pushInTurn remote policies pushing.started := by
  unfold Pushing.makeRoom
  rcases single.cases remote policies with
    ⟨started, free⟩ | ⟨operation, started, busy, exchanged⟩
  · rw [if_pos (by rw [free]; exact Nat.zero_lt_one), started]
    exact ⟨rfl, single.unanswered, rfl⟩
  · rw [if_neg (by rw [busy]; exact Nat.lt_irrefl 1), exchanged, started]
    exact ⟨rfl, rfl, rfl⟩

/-- And it is concluded where the push ends, by `finish`. -/
theorem Single.finish (single : pushing.Single) :
    (pushing.finish remote policies).run =
      pushing.run.pushInTurn remote policies pushing.started := by
  unfold Pushing.finish
  rcases single.cases remote policies with
    ⟨started, -⟩ | ⟨operation, started, -, exchanged⟩
  · simp [exchangeAll, settleAll, started, single.unanswered, Run.pushInTurn]
  · rw [exchanged, started]
    rfl

/-- A push with one worker takes up operations from the first on, each when the one before it
is concluded, until the signal has fired. -/
theorem Single.pushEach (operations : List Operation) (single : pushing.Single) :
    ∃ taken left, operations = taken ++ left ∧
      ((pushing.pushEach remote policies 1 operations).1 ↔ left ≠ []) ∧
      Run.PushesInTurn remote policies (pushing.run.pushInTurn remote policies pushing.started)
        (pushing.pushEach remote policies 1 operations).2.run taken left := by
  induction operations generalizing pushing with
  | nil =>
    refine ⟨[], [], rfl, by simp [Pushing.pushEach], single.finish remote policies, ?_, by simp⟩
    intro earlier operation later split
    simp at split
  | cons operation rest inductionHypothesis =>
    obtain ⟨idle, unanswered, reached⟩ := single.makeRoom remote policies
    unfold Pushing.pushEach
    dsimp only
    generalize pushing.makeRoom remote policies 1 = ready at idle unanswered reached ⊢
    rw [← reached]
    split
    · rename_i fired
      have done : (ready.finish remote policies).run = ready.run := by
        have free : ready.Single := ⟨by simp [idle], unanswered⟩
        rw [free.finish remote policies, idle]
        rfl
      refine ⟨[], operation :: rest, rfl, by simp, done, ?_, fun _ => by rwa [done]⟩
      intro earlier other later split
      simp at split
    · rename_i waits
      have taken : (ready.takeUp operation).Single := ⟨by simp [takeUp, idle], unanswered⟩
      obtain ⟨more, left, split, stopped, pushes⟩ := inductionHypothesis taken
      have first : (ready.takeUp operation).started = [operation] := by simp [takeUp, idle]
      rw [first] at pushes
      have cut : operation :: rest = (operation :: more) ++ left := by rw [split]; rfl
      refine ⟨operation :: more, left, cut, stopped, pushes.reaches, ?_, pushes.stops⟩
      rintro (_ | ⟨head, earlier⟩) other later splits
      · exact Bool.not_eq_true _ ▸ waits
      · obtain ⟨rfl, same⟩ := List.cons.inj splits
        exact pushes.goesOn earlier other later same

end Pushing

/-- A push with one worker pushes the operations that it has listed in their order, until the
signal has fired. The caller is told of the cancellation exactly if one is left. -/
theorem Run.pushesInTurn {σ : Type} (remote : Remote σ) (policies : PolicyChoice)
    (tables : List String) (run : Run σ) :
    ∃ taken left, run.store.listOpen tables = taken ++ left ∧
      ((run.push remote policies 1 tables).1 = .error .cancelled ↔ left ≠ []) ∧
      Run.PushesInTurn remote policies run (run.push remote policies 1 tables).2 taken left := by
  have free : (Pushing.ofRun run).Single := ⟨Nat.zero_le 1, rfl⟩
  obtain ⟨taken, left, split, stopped, pushes⟩ :=
    free.pushEach remote policies (run.store.listOpen tables)
  refine ⟨taken, left, split, ?_, pushes⟩
  rw [← stopped]
  unfold push
  dsimp only
  split
  · rename_i cancelled
    simp [cancelled]
  · rename_i finished
    simp [finished]

namespace Store

/-- The queue is in the order of creation, whatever calls are made on a store (`attemptAll`),
accepted or refused. The operations that they create are numbered in turn, so that a refused call
takes no number; what is queued stands in the rows of created operations (`Operation.InRowsOf`),
with the numbers that they were created with; and each scope lists its open operations in that
order, in which a push with one worker pushes them (`PushesInTurn`) and so sends their requests.
It leaves one only if the signal has fired, and none if nobody cancels. -/
theorem queue_in_order_of_creation (calls : List Call) :
    ((empty.created calls).map (·.sequence) =
        (List.range (empty.created calls).length).map fun (count : Nat) => 1 + (count : Int)) ∧
      (empty.attemptAll calls).lastSequence = (empty.created calls).length ∧
      Operation.InRowsOf (empty.attemptAll calls).queue (empty.created calls) ∧
      ∀ tables : List String,
        Operation.InRowsOf ((empty.attemptAll calls).listOpen tables) (empty.created calls) ∧
        (∀ row, row ∈ (empty.attemptAll calls).listOpen tables ↔
          row ∈ (empty.attemptAll calls).queue ∧ row.isOpen ∧ inScope tables row) ∧
        ∀ {σ : Type} (remote : Remote σ) (policies : PolicyChoice) (state : σ)
          (signal : CancelSignal) (exchanges : List Exchange) (now : Instant),
          let run : Run σ := ⟨empty.attemptAll calls, state, signal, exchanges, now⟩
          ∃ taken left, run.store.listOpen tables = taken ++ left ∧
            ((run.push remote policies 1 tables).1 = .error .cancelled ↔ left ≠ []) ∧
            (run.NeverFires remote → left = []) ∧
            run.Sends (run.push remote policies 1 tables).2 taken ∧
            run.PushesInTurn remote policies (run.push remote policies 1 tables).2 taken left := by
  have continues := queueSound_empty.continues calls
  have order : Operation.InRowsOf (empty.attemptAll calls).queue (empty.created calls) :=
    continues.order
  refine ⟨continues.numbers, continues.counter.trans (Int.zero_add _), order, fun tables => ?_⟩
  have listed : ((empty.attemptAll calls).listOpen tables).Sublist (empty.attemptAll calls).queue :=
    List.filter_sublist
  refine ⟨(Operation.InRowsOf.of_sublist listed).trans order, fun row => ?_, ?_⟩
  · simp [listOpen]
  · intro σ remote policies state signal exchanges now
    obtain ⟨taken, left, split, told, pushes⟩ := Run.pushesInTurn remote policies tables
      ⟨empty.attemptAll calls, state, signal, exchanges, now⟩
    refine ⟨taken, left, split, told, pushes.left_eq_nil, ?_, pushes⟩
    rw [pushes.reaches]
    exact Run.sends_pushInTurn _ taken

end Store

end OfflineSync
