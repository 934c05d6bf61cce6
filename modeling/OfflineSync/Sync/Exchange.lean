import OfflineSync.Remote.Message
import OfflineSync.Sync.Edit

/-!
# Exchanges with the remote

While a request is on its way the user goes on editing, and may cancel the call. An exchange,
`Run.send`, therefore takes a `Run` from one state to the next: the edits made in flight are
recorded before the answer is looked at.
-/

namespace OfflineSync

/-- Whether the caller wants a call to stop. -/
inductive CancelSignal where
  /-- A signal that never fires. -/
  | never
  | waiting
  | fired
  deriving DecidableEq, Repr

namespace CancelSignal

/-- The signal after its caller fires it. -/
def fire : CancelSignal → CancelSignal
  | .never => .never
  | .waiting | .fired => .fired

/-- Whether the signal has fired. -/
def isFired (signal : CancelSignal) : Bool :=
  signal == .fired

end CancelSignal

/-- What happens between a request and its answer. -/
structure Flight where
  /-- The edits that the user makes meanwhile. -/
  edits : List Edit
  /-- Whether the caller cancels meanwhile. -/
  cancels : Bool
  /-- The answer, or why there is none. -/
  answer : Except SyncError Response

/-- A remote, with whatever state it keeps. -/
abbrev Remote (σ : Type) := Request → σ → Flight × σ

/-- A request that was sent, and the outcomes of the edits made in its flight. -/
structure Exchange where
  request : Request
  edits : List (Except SyncError EnqueueOutcome)

/-- The state of a push or a pull: the local store, the remote, the caller's
signal, the requests sent so far, and the moment at which results are noted. -/
structure Run (σ : Type) where
  store : Store
  remote : σ
  signal : CancelSignal
  exchanges : List Exchange
  now : Instant

namespace Run

variable {σ : Type}

/-- Sends a request and waits for its answer. -/
def send (remote : Remote σ) (run : Run σ) (request : Request) :
    Except SyncError Response × Run σ :=
  let (flight, next) := remote request run.remote
  let (outcomes, store) := run.store.editAll run.now flight.edits
  (flight.answer,
    { run with
      store
      remote := next
      signal := if flight.cancels then run.signal.fire else run.signal
      exchanges := run.exchanges ++ [⟨request, outcomes⟩] })

/-- An exchange in which nobody edits leaves the store as it was. -/
theorem store_send {remote : Remote σ} {run : Run σ} {request : Request}
    (quiet : (remote request run.remote).1.edits = []) :
    (run.send remote request).2.store = run.store := by
  simp [send, quiet, Store.editAll]

end Run

end OfflineSync
