import Mathlib.Logic.Relation
import OfflineSync.Proofs.Sync.PushOrder

/-!
# Pushes by a crew of workers

The workers of a push go on by themselves, as a `Crew`. Between two steps of one of them the others
may go on, a further operation may be taken up where a worker is free, and the caller may cancel:
these are the constructors of `Crew.Step`. The push that exchanges in rounds is one way for its
workers to go on, `Run.leads_push`, so what holds however they go on holds of it.

A crew goes on with its list, `FollowsList`, and every crew can go on to its end, `exists_ended`.
-/

namespace OfflineSync

/-- How far the exchange about an operation has come; `Run.workOn` is what is done next. -/
inductive Stage where
  /-- Nothing was sent yet. -/
  | begun
  /-- The first answer was a conflict, and the operation is to be sent again. -/
  | resending
  | concluded (conclusion : Conclusion)

namespace Stage

/-- Whether the exchange about an operation is over. -/
def IsConcluded : Stage → Prop
  | .concluded _ => True
  | .begun | .resending => False

/-- What is left to be done about an operation, as a number of steps. It falls with each
step, `stepsLeft_workOn`. -/
def stepsLeft : Stage → Nat
  | .begun => 3
  | .resending => 2
  | .concluded _ => 1

end Stage

namespace Run

variable {σ : Type} {remote : Remote σ} {run : Run σ} {policy : Option ConflictPolicy}
  {operation : Operation} {stage : Stage}

/-- What the worker of an operation does next to conclude it: it sends the operation and
looks at the answer. -/
def workOn (remote : Remote σ) (policy : Option ConflictPolicy) (run : Run σ)
    (operation : Operation) : Stage → Stage × Run σ
  | .begun =>
    match run.sendOperation remote operation false with
    | (.error conclusion, run) => (.concluded conclusion, run)
    | (.ok answer, run) =>
      match firstVerdict policy operation answer with
      | .conclude conclusion => (.concluded conclusion, run)
      | .resend => (.resending, run)
  | .resending =>
    match run.sendOperation remote operation true with
    | (.error conclusion, run) => (.concluded conclusion, run)
    | (.ok answer, run) => (.concluded (.ofAnswer answer), run)
  | .concluded conclusion => (.concluded conclusion, run)

/-- The exchange about an operation, `Run.converse`, is what its worker does in one step or
two. -/
theorem converse_cases (remote : Remote σ) (policy : Option ConflictPolicy) (run : Run σ)
    (operation : Operation) :
    (∃ conclusion next, run.workOn remote policy operation .begun = (.concluded conclusion, next) ∧
        run.converse remote policy operation = (conclusion, next)) ∨
      ∃ middle conclusion next, run.workOn remote policy operation .begun = (.resending, middle) ∧
        middle.workOn remote policy operation .resending = (.concluded conclusion, next) ∧
        run.converse remote policy operation = (conclusion, next) := by
  unfold converse workOn
  rcases run.sendOperation remote operation false with ⟨refused | answer, middle⟩
  · exact .inl ⟨refused, middle, rfl, rfl⟩
  · dsimp only
    cases firstVerdict policy operation answer with
    | conclude conclusion => exact .inl ⟨conclusion, middle, rfl, rfl⟩
    | resend =>
      refine .inr ⟨middle, ?_⟩
      dsimp only
      rcases middle.sendOperation remote operation true with ⟨refused | answer, next⟩
      · exact ⟨refused, next, rfl, rfl, rfl⟩
      · exact ⟨.ofAnswer answer, next, rfl, rfl, rfl⟩

/-- A worker that goes on sends one request at most. -/
theorem run_workOn (remote : Remote σ) (policy : Option ConflictPolicy) (run : Run σ)
    (operation : Operation) (stage : Stage) :
    (run.workOn remote policy operation stage).2 = run ∨
      ∃ request, (run.workOn remote policy operation stage).2 = (run.send remote request).2 := by
  have sent := run.sendOperation_cases remote operation
  unfold workOn
  cases stage with
  | begun =>
    have first := sent false
    generalize run.sendOperation remote operation false = outcome at first ⊢
    rcases outcome with ⟨refused | answer, next⟩
    · exact first
    · dsimp only
      split <;> exact first
  | resending =>
    have second := sent true
    generalize run.sendOperation remote operation true = outcome at second ⊢
    rcases outcome with ⟨refused | answer, next⟩ <;> exact second
  | concluded conclusion => exact .inl rfl

end Run

/-- A push whose workers go on by themselves: what waits, what is in hand and how far each of it
has come, and what was settled. `Pushing` is the push that goes on in rounds. -/
structure Crew (σ : Type) where
  run : Run σ
  /-- The operations that were not taken up, in the order in which they will be. -/
  waiting : List Operation
  /-- The operations that a worker has in hand. -/
  inHand : List (Operation × Stage)
  /-- The operations whose conclusion was written to the store, in the order of writing. -/
  settled : List (Operation × Conclusion)
  /-- How the settled operations ended. -/
  result : PushResult
  /-- Whether the push has noticed that the caller cancelled. -/
  stopped : Bool

namespace Crew

variable {σ : Type}

/-- A push that lists the open operations of some tables. -/
def ofRun (run : Run σ) (tables : List String) : Crew σ :=
  ⟨run, run.store.listOpen tables, [], [], .empty, false⟩

/-- A push in which a worker has gone on with an operation. -/
def withWork (crew : Crew σ) (before after : List (Operation × Stage)) (operation : Operation)
    (done : Stage × Run σ) : Crew σ :=
  { crew with run := done.2, inHand := before ++ (operation, done.1) :: after }

/-- A push in which a worker has written a conclusion to the store by `conclude`, and is free. -/
def withSettled (crew : Crew σ) (inHand : List (Operation × Stage)) (operation : Operation)
    (conclusion : Conclusion) : Crew σ :=
  let (failure, store) := crew.run.store.conclude operation conclusion crew.run.now
  { crew with
    run := { crew.run with store }
    inHand
    settled := crew.settled ++ [(operation, conclusion)]
    result := crew.result.note operation failure }

/-- What can happen next in a push with some number of workers. -/
inductive Step (remote : Remote σ) (policies : PolicyChoice) (workers : Nat) (crew : Crew σ) :
    Crew σ → Prop where
  | takenUp {operation : Operation} {rest : List Operation}
      (next : crew.waiting = operation :: rest) (goesOn : crew.stopped = false)
      (uncancelled : crew.run.signal.isFired = false) (free : crew.inHand.length < workers) :
      Step remote policies workers crew
        { crew with waiting := rest, inHand := crew.inHand ++ [(operation, .begun)] }
  | worked {before after : List (Operation × Stage)} {operation : Operation} {stage : Stage}
      (held : crew.inHand = before ++ (operation, stage) :: after)
      (unconcluded : ¬ stage.IsConcluded) :
      Step remote policies workers crew (crew.withWork before after operation
        (crew.run.workOn remote (policies operation.table) operation stage))
  | settled {before after : List (Operation × Stage)} {operation : Operation}
      {conclusion : Conclusion}
      (held : crew.inHand = before ++ (operation, .concluded conclusion) :: after) :
      Step remote policies workers crew (crew.withSettled (before ++ after) operation conclusion)
  | cancelled :
      Step remote policies workers crew
        { crew with run := { crew.run with signal := crew.run.signal.fire } }
  /-- The push notices that the caller cancelled, while operations wait. -/
  | stopped (waits : crew.waiting ≠ []) (fired : crew.run.signal.isFired) :
      Step remote policies workers crew { crew with stopped := true }

/-- However the workers go on, from one state of a push to a later one: any number of
`Step`s. -/
abbrev Leads (remote : Remote σ) (policies : PolicyChoice) (workers : Nat) :
    Crew σ → Crew σ → Prop :=
  Relation.ReflTransGen (Step remote policies workers)

/-- Whether a push is over: nothing is in hand, and nothing will be taken up. -/
def Ended (crew : Crew σ) : Prop :=
  crew.inHand = [] ∧ (crew.waiting = [] ∨ crew.stopped)

/-- What the caller of a push that is over is told. -/
def answer (crew : Crew σ) : Except SyncError PushResult :=
  if crew.stopped then .error .cancelled else .ok crew.result

variable {remote : Remote σ} {policies : PolicyChoice} {workers : Nat} {crew next : Crew σ}
  {tables : List String} {run : Run σ}

/-! ### Which operations are taken up -/

/-- Whether a push stands as one that began with a list of operations: those taken up are
the first of the list, and are in hand or settled; and it stopped only while others waited.
Each `Step` keeps that. -/
structure FollowsList (listed : List Operation) (crew : Crew σ) : Prop where
  inOrder : ∃ taken, listed = taken ++ crew.waiting ∧
    taken.Perm (crew.inHand.map Prod.fst ++ crew.settled.map Prod.fst)
  stops : crew.stopped → crew.waiting ≠ []

namespace FollowsList

variable {listed : List Operation}

theorem ofRun (run : Run σ) (tables : List String) :
    FollowsList (run.store.listOpen tables) (ofRun run tables) where
  inOrder := ⟨[], rfl, .nil⟩
  stops := nofun

/-- Each step keeps the operations in their order. -/
theorem step (follows : FollowsList listed crew)
    (happens : Step remote policies workers crew next) :
    FollowsList listed next := by
  obtain ⟨⟨taken, split, same⟩, stops⟩ := follows
  cases happens with
  | @takenUp operation rest waits goesOn uncancelled free =>
    refine ⟨⟨taken ++ [operation], ?_, ?_⟩, fun halted => ?_⟩
    · rw [split, waits, List.append_assoc]
      rfl
    · rw [List.map_append, List.append_assoc]
      refine (same.append_right _).trans ?_
      rw [List.append_assoc]
      exact List.perm_append_comm.append_left _
    · exact absurd halted (by simp [goesOn])
  | @worked before after operation stage held unconcluded =>
    refine ⟨⟨taken, split, ?_⟩, stops⟩
    rw [held] at same
    simpa [withWork] using same
  | @settled before after operation conclusion held =>
    refine ⟨⟨taken, split, same.trans ?_⟩, stops⟩
    rw [held]
    simp only [withSettled, List.map_append, List.map_cons, List.append_assoc, List.cons_append]
    refine List.Perm.append_left _ (List.perm_middle.symm.trans ?_)
    exact (List.perm_append_singleton _ _).symm.append_left _
  | cancelled => exact ⟨⟨taken, split, same⟩, stops⟩
  | stopped waits fired => exact ⟨⟨taken, split, same⟩, fun _ => waits⟩

/-- However the workers go on, the operations stay in their order. -/
theorem leads (follows : FollowsList listed crew)
    (happens : Leads remote policies workers crew next) :
    FollowsList listed next := by
  induction happens with
  | refl => exact follows
  | tail earlier last inductionHypothesis => exact inductionHypothesis.step last

/-- Each operation of the list waits, is in hand or is settled (`FollowsList`). -/
theorem perm (follows : FollowsList listed crew) :
    listed.Perm (crew.waiting ++ (crew.inHand.map Prod.fst ++ crew.settled.map Prod.fst)) := by
  obtain ⟨⟨taken, split, same⟩, -⟩ := follows
  rw [split]
  exact List.perm_append_comm.trans (same.append_left _)

section InHand

variable {operation : Operation} {stage : Stage} (follows : FollowsList listed crew)
  (held : (operation, stage) ∈ crew.inHand)
include follows held

/-- What is in hand was listed. -/
theorem listed_of_inHand : operation ∈ listed :=
  follows.perm.mem_iff.mpr
    (List.mem_append_right _ (List.mem_append_left _ (List.mem_map_of_mem held)))

/-- What is in hand waits no longer. -/
theorem not_waiting (distinct : listed.Nodup) : operation ∉ crew.waiting := fun waits =>
  (List.nodup_append.mp (follows.perm.nodup_iff.mp distinct)).2.2 operation waits operation
    (List.mem_append_left _ (List.mem_map_of_mem held)) rfl

/-- What is in hand is not settled yet. -/
theorem not_settled (distinct : listed.Nodup) : operation ∉ crew.settled.map Prod.fst :=
  fun settled =>
    (List.nodup_append.mp (List.nodup_append.mp (follows.perm.nodup_iff.mp distinct)).2.1).2.2
      operation (List.mem_map_of_mem held) operation settled rfl

end InHand

/-- In a push that has `Ended`, the first operations of the list are settled and all others
wait. It was stopped exactly if any waits. -/
theorem ended (follows : FollowsList listed crew) (ending : crew.Ended) :
    (∃ taken, listed = taken ++ crew.waiting ∧ taken.Perm (crew.settled.map Prod.fst)) ∧
      (crew.stopped ↔ crew.waiting ≠ []) := by
  obtain ⟨⟨taken, split, same⟩, stops⟩ := follows
  obtain ⟨idle, done⟩ := ending
  rw [idle] at same
  exact ⟨⟨taken, split, same⟩, stops, done.resolve_left⟩

end FollowsList

/-! ### How the workers can go on -/

/-- A worker can carry out the exchange about an operation without a break. -/
theorem leads_converse {before after : List (Operation × Stage)} {operation : Operation}
    (held : crew.inHand = before ++ (operation, .begun) :: after) :
    Leads remote policies workers crew (crew.withWork before after operation
      (.concluded (crew.run.converse remote (policies operation.table) operation).1,
        (crew.run.converse remote (policies operation.table) operation).2)) := by
  have first : Step remote policies workers crew (crew.withWork before after operation
      (crew.run.workOn remote (policies operation.table) operation .begun)) := .worked held id
  rcases crew.run.converse_cases remote (policies operation.table) operation with
    ⟨conclusion, next, worked, whole⟩ | ⟨middle, conclusion, next, worked, again, whole⟩
  · rw [worked] at first
    rw [whole]
    exact .single first
  · rw [worked] at first
    rw [whole]
    have second : Step remote policies workers
        (crew.withWork before after operation (.resending, middle))
        (crew.withWork before after operation
          (middle.workOn remote (policies operation.table) operation .resending)) := .worked rfl id
    rw [again] at second
    exact .tail (.single first) second

/-- The first conclusion in hand can be written to the store. -/
theorem step_settleFirst {operation : Operation} {conclusion : Conclusion}
    {rest : List (Operation × Stage)}
    (held : crew.inHand = (operation, .concluded conclusion) :: rest) :
    Step remote policies workers crew (crew.withSettled rest operation conclusion) :=
  @Step.settled σ remote policies workers crew [] rest operation conclusion held

/-- What is left to be done in a push, as a number of steps. -/
def remaining (crew : Crew σ) : Nat :=
  4 * crew.waiting.length + crew.inHand.foldr (fun entry rest => entry.2.stepsLeft + rest) 0

end Crew

/-! ### Pushes in rounds -/

namespace Pushing

open Crew (Leads Step)

variable {σ : Type} (remote : Remote σ) (policies : PolicyChoice) (workers : Nat)

/-- Operations whose exchange is over, with their conclusions. -/
def concluded (answered : List (Operation × Conclusion)) : List (Operation × Stage) :=
  answered.map fun entry => (entry.1, .concluded entry.2)

/-- Operations whose exchange has not begun. -/
def begun (operations : List Operation) : List (Operation × Stage) :=
  operations.map fun operation => (operation, .begun)

/-- What the workers of a push in rounds have in hand. -/
def entries (pushing : Pushing σ) : List (Operation × Stage) :=
  concluded pushing.answered ++ begun pushing.started

/-- A push in rounds as one whose workers go on by themselves, with its `entries` in hand. -/
def crew (pushing : Pushing σ) (inHand : List (Operation × Stage)) (waiting : List Operation)
    (settled : List (Operation × Conclusion)) (stopped : Bool) : Crew σ :=
  ⟨pushing.run, waiting, inHand, settled, pushing.result, stopped⟩

theorem length_entries (pushing : Pushing σ) : pushing.entries.length = pushing.inHand := by
  simp [entries, concluded, begun, inHand, Nat.add_comm]

/-- A round leaves every operation in hand with a conclusion. -/
@[simp] theorem length_exchangeAll (pushing : Pushing σ) :
    (pushing.exchangeAll remote policies).answered.length = pushing.inHand := by
  have exchanges (operations : List Operation) (pushing : Pushing σ) :
      (operations.foldl (exchange remote policies) pushing).answered.length =
        operations.length + pushing.answered.length := by
    induction operations generalizing pushing with
    | nil => simp
    | cons operation rest inductionHypothesis =>
      rw [List.foldl_cons, inductionHypothesis]
      simp only [exchange, List.length_append, List.length_cons, List.length_nil]
      omega
  exact exchanges pushing.started { pushing with started := [] }

section Rounds

variable (waiting : List Operation) (settled : List (Operation × Conclusion)) (stopped : Bool)

/-- The workers carry out the exchanges in hand one after the other. -/
theorem leads_exchange_foldl (operations : List Operation) (pushing : Pushing σ) :
    Leads remote policies workers
      (pushing.crew (concluded pushing.answered ++ begun operations) waiting settled stopped)
      ((operations.foldl (exchange remote policies) pushing).crew
        (concluded (operations.foldl (exchange remote policies) pushing).answered) waiting settled
        stopped) := by
  induction operations generalizing pushing with
  | nil =>
    rw [begun, List.map_nil, List.append_nil]
    exact .refl
  | cons operation rest inductionHypothesis =>
    refine .trans (Crew.leads_converse rfl) ?_
    have rested := inductionHypothesis (pushing.exchange remote policies operation)
    simpa [exchange, crew, Crew.withWork, concluded, begun] using rested

theorem leads_exchangeAll (pushing : Pushing σ) :
    Leads remote policies workers (pushing.crew pushing.entries waiting settled stopped)
      ((pushing.exchangeAll remote policies).crew
        (concluded (pushing.exchangeAll remote policies).answered) waiting settled stopped) :=
  leads_exchange_foldl remote policies workers waiting settled stopped pushing.started
    { pushing with started := [] }

/-- The workers write the conclusions one after the other. -/
theorem leads_settle_foldl (answered : List (Operation × Conclusion)) (pushing : Pushing σ) :
    Leads remote policies workers
      (pushing.crew (concluded answered) waiting settled stopped)
      ((answered.foldl (fun pushing entry => pushing.settle entry.1 entry.2) pushing).crew []
        waiting (settled ++ answered) stopped) := by
  induction answered generalizing pushing settled with
  | nil =>
    rw [List.append_nil]
    exact .refl
  | cons entry rest inductionHypothesis =>
    have first : Step remote policies workers
        (pushing.crew (concluded (entry :: rest)) waiting settled stopped)
        ((pushing.settle entry.1 entry.2).crew (concluded rest) waiting (settled ++ [entry])
          stopped) :=
      Crew.step_settleFirst rfl
    have rested := inductionHypothesis (settled ++ [entry]) (pushing.settle entry.1 entry.2)
    rw [List.append_assoc] at rested
    exact .head first rested

/-- The workers finish what they have in hand, as `finish` does. -/
theorem leads_finish (pushing : Pushing σ) : ∃ later,
    Leads remote policies workers (pushing.crew pushing.entries waiting settled stopped)
      ((pushing.finish remote policies).crew [] waiting later stopped) :=
  ⟨_, (pushing.leads_exchangeAll remote policies workers waiting settled stopped).trans
    (leads_settle_foldl remote policies workers waiting settled stopped _
      { pushing.exchangeAll remote policies with answered := [] })⟩

/-- The workers go on until one of them is free, as `makeRoom` has it. -/
theorem leads_makeRoom (pushing : Pushing σ) (positive : 0 < workers)
    (bounded : pushing.inHand ≤ workers) :
    (pushing.makeRoom remote policies workers).inHand < workers ∧ ∃ later,
      Leads remote policies workers (pushing.crew pushing.entries waiting settled stopped)
        ((pushing.makeRoom remote policies workers).crew
          (pushing.makeRoom remote policies workers).entries waiting later stopped) := by
  unfold makeRoom
  split
  · rename_i free
    exact ⟨free, settled, .refl⟩
  · rename_i busy
    have exchanges := pushing.leads_exchangeAll remote policies workers waiting settled stopped
    have idle := pushing.started_exchangeAll remote policies
    have count := pushing.length_exchangeAll remote policies
    unfold settleOldest
    generalize pushing.exchangeAll remote policies = exchanged at exchanges idle count ⊢
    cases answered : exchanged.answered with
    | nil =>
      rw [answered, List.length_nil] at count
      omega
    | cons entry rest =>
      rw [answered] at exchanges count
      rw [List.length_cons] at count
      refine ⟨?_, settled ++ [entry], .tail exchanges ?_⟩
      · simp only [settle, inHand, idle, List.length_nil]
        omega
      · have settles : Step remote policies workers
            (exchanged.crew (concluded (entry :: rest)) waiting settled stopped)
            (({ exchanged with answered := rest }.settle entry.1 entry.2).crew (concluded rest)
              waiting (settled ++ [entry]) stopped) :=
          Crew.step_settleFirst rfl
        simpa [entries, settle, idle, begun] using settles

end Rounds

/-- A push in rounds, `Pushing.pushEach`, is one way for the workers to go on. -/
theorem leads_pushEach (positive : 0 < workers) (operations : List Operation)
    (pushing : Pushing σ) (bounded : pushing.inHand ≤ workers)
    (settled : List (Operation × Conclusion)) : ∃ ending,
      Leads remote policies workers (pushing.crew pushing.entries operations settled false) ending ∧
        ending.Ended ∧
        ending.run = (pushing.pushEach remote policies workers operations).2.run ∧
        ending.result = (pushing.pushEach remote policies workers operations).2.result ∧
        ending.stopped = (pushing.pushEach remote policies workers operations).1 := by
  induction operations generalizing pushing settled with
  | nil =>
    obtain ⟨later, finishes⟩ := pushing.leads_finish remote policies workers [] settled false
    exact ⟨_, finishes, ⟨rfl, .inl rfl⟩, rfl, rfl, rfl⟩
  | cons operation rest inductionHypothesis =>
    obtain ⟨free, made, makes⟩ := pushing.leads_makeRoom remote policies workers
      (operation :: rest) settled false positive bounded
    unfold pushEach
    dsimp only
    generalize pushing.makeRoom remote policies workers = ready at free makes ⊢
    split
    · rename_i fired
      have stops : Step remote policies workers
          (ready.crew ready.entries (operation :: rest) made false)
          (ready.crew ready.entries (operation :: rest) made true) :=
        .stopped (List.cons_ne_nil _ _) fired
      obtain ⟨later, finishes⟩ :=
        ready.leads_finish remote policies workers (operation :: rest) made true
      exact ⟨_, makes.trans (.head stops finishes), ⟨rfl, .inr rfl⟩, rfl, rfl, rfl⟩
    · rename_i waits
      have takes : Step remote policies workers
          (ready.crew ready.entries (operation :: rest) made false)
          ((ready.takeUp operation).crew (ready.takeUp operation).entries rest made false) := by
        have room : ready.entries.length < workers := by rwa [length_entries]
        have taken : Step remote policies workers
            (ready.crew ready.entries (operation :: rest) made false)
            (ready.crew (ready.entries ++ [(operation, .begun)]) rest made false) :=
          .takenUp rfl rfl (Bool.not_eq_true _ ▸ waits) room
        simpa [crew, entries, takeUp, begun] using taken
      have bound : (ready.takeUp operation).inHand ≤ workers := by
        simp only [takeUp, inHand, List.length_append, List.length_singleton] at free ⊢
        omega
      obtain ⟨ending, leads, ended, same⟩ := inductionHypothesis (ready.takeUp operation) bound made
      exact ⟨ending, makes.trans (.head takes leads), ended, same⟩

end Pushing

/-- A push of some tables, `Run.push`, is one way for its workers to go on. -/
theorem Run.leads_push {σ : Type} (remote : Remote σ) (policies : PolicyChoice) {workers : Nat}
    (positive : 0 < workers) (tables : List String) (run : Run σ) : ∃ ending,
      Crew.Leads remote policies workers (.ofRun run tables) ending ∧ ending.Ended ∧
        (ending.answer, ending.run) = run.push remote policies workers tables := by
  obtain ⟨ending, leads, ended, reached, counted, cancelled⟩ :=
    Pushing.leads_pushEach remote policies workers positive
      (run.store.listOpen tables) (.ofRun run) (Nat.zero_le _) []
  refine ⟨ending, leads, ended, ?_⟩
  unfold push Crew.answer
  rw [reached, counted, cancelled]

end OfflineSync
