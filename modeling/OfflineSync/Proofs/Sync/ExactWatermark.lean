import OfflineSync.Proofs.Sync.PulledPages
import OfflineSync.Proofs.Sync.Resumption

/-!
# Where a pull leaves the watermark

A pull applies page by page and row by row, and may be stopped anywhere: by the caller, by the
remote or by a row that fails. Wherever it stops, the watermark of its query is the latest moment of
change among the rows applied so far and what it was before, `Pulls.watermark?`. No row that was
applied is left out, and no other row is counted.
-/

namespace OfflineSync

/-- Local edits keep the watermarks. -/
@[simp] theorem Store.watermark?_editAll {store : Store} {now : Instant} (edits : List Edit)
    (tokenKey : String) :
    (store.editAll now edits).2.watermark? tokenKey = store.watermark? tokenKey := by
  refine editAll_induction
    (motive := fun after => after.watermark? tokenKey = store.watermark? tokenKey) rfl ?_
  intro edit _ mutation _ before outcome after kept recorded
  exact ((SameWatermarks.of_recordLocalMutation recorded).watermark? tokenKey).trans kept

namespace Run

variable {σ : Type}

variable {remote : Remote σ} {table tokenKey : String} {options : PullOptions} {run : Run σ}

/-- An exchange keeps the watermarks, whatever is edited meanwhile. -/
@[simp] theorem watermark?_send (remote : Remote σ) (run : Run σ) (request : Request)
    (other : String) :
    (run.send remote request).2.store.watermark? other = run.store.watermark? other :=
  Store.watermark?_editAll _ _

/-- The pages of a pull raise the watermark, by `raisedTo`, to the latest moment of change of the
rows applied. -/
theorem Pulls.watermark? {after : Run σ} {pages : List (List Document)} {result : TablePullResult}
    (pulls : Pulls remote table [tokenKey] run pages result after) (other : String) :
    after.store.watermark? other =
      raisedTo (run.store.watermark? other)
        (if tokenKey = other then pages.flatten.filterMap Document.changeMicros? else []) := by
  induction pulls with
  | stopped run error => simp
  | unanswered run request fault => simp
  | @refused run request page refusal tokenKey among answered refuses =>
    cases List.mem_singleton.mp among
    rw [List.flatten_singleton, ← run.watermark?_send remote request other]
    exact Store.watermark?_applyPage ..
  | @applied run after request page counts pages result tokenKey among answered applies rest
      inductionHypothesis =>
    cases List.mem_singleton.mp among
    have raised := Store.watermark?_applyPage (run.send remote request).2.store table tokenKey other
      page.items
    rw [Store.appliedRows_eq applies, run.watermark?_send remote request other] at raised
    rw [inductionHypothesis, applyPage, raised, List.flatten_cons, List.filterMap_append]
    split
    · rw [raisedTo_append]
    · simp

/-- The pull of a query raises its watermark to the latest moment of change of the rows
applied. -/
theorem watermark?_pullQuery (run : Run σ) (query : PullQuery) (other : String) :
    (run.pullQuery remote options query).2.store.watermark? other =
      raisedTo (run.store.watermark? other)
        (if query.tokenKey = other then
          (run.pulledRows remote options query).filterMap Document.changeMicros? else []) :=
  (pulls_pullQuery remote options run query).watermark? other

end Run

/-- Where every watermark can be read back (`Readable`), each is read as the moment it stands
for. -/
theorem Store.watermarkAt_of_readable {store : Store} (readable : store.Readable)
    (tokenKey : String) : ∃ watermark, store.watermarkAt tokenKey = .ok watermark ∧
      watermark.map Instant.toMicros = store.watermark? tokenKey := by
  have read : ∃ watermark, store.watermarkAt tokenKey = .ok watermark := by
    unfold watermarkAt
    cases held : store.watermark? tokenKey with
    | none => exact ⟨none, rfl⟩
    | some micros =>
      obtain ⟨instant, stands⟩ := Option.isSome_iff_exists.mp (readable tokenKey micros held)
      exact ⟨some instant, by simp only [readWatermark, stands, Except.map]⟩
  obtain ⟨watermark, read⟩ := read
  exact ⟨watermark, read, watermarkAt_eq_ok read⟩

/-- Wherever the pull of a query is stopped, its watermark is the latest moment of change among
the rows applied (`Document.changeMicros?`) and what it was before. It is absent exactly when
there was none and no row applied has such a moment, it never falls, no other watermark changes,
and each can be read back, as in every `Dated` store. -/
theorem pulled_watermark_exact {σ : Type} {remote : Remote σ} {options : PullOptions}
    {run : Run σ} {query : PullQuery} (dated : run.store.Dated) :
    let moments := (run.pulledRows remote options query).filterMap Document.changeMicros?
    let before := run.store.watermark? query.tokenKey
    let pulled := (run.pullQuery remote options query).2.store
    pulled.watermark? query.tokenKey = (before.toList ++ moments).max? ∧
      (pulled.watermark? query.tokenKey = none ↔ before = none ∧ moments = []) ∧
      (∀ micros, before = some micros →
        ∃ later, pulled.watermark? query.tokenKey = some later ∧ micros ≤ later) ∧
      (∀ other, other ≠ query.tokenKey → pulled.watermark? other = run.store.watermark? other) ∧
      ∀ tokenKey, ∃ watermark, pulled.watermarkAt tokenKey = .ok watermark ∧
        watermark.map Instant.toMicros = pulled.watermark? tokenKey := by
  intro moments before pulled
  have raised (other : String) : pulled.watermark? other = raisedTo (run.store.watermark? other)
      (if query.tokenKey = other then moments else []) := Run.watermark?_pullQuery run query other
  have own : pulled.watermark? query.tokenKey = raisedTo before moments := by
    rw [raised, if_pos rfl]
  refine ⟨own, ?_, fun micros held => ?_, fun other differs => ?_, ?_⟩
  · rw [own, raisedTo_eq_none]
  · rw [own]
    exact le_raisedTo held
  · rw [raised, if_neg differs.symm, raisedTo_nil]
  · refine Store.watermarkAt_of_readable fun other micros found => ?_
    rw [raised] at found
    refine Store.storable_of_raisedTo (dated.readable other) (fun moment among => ?_) found
    split at among
    · obtain ⟨row, -, changed⟩ := List.mem_filterMap.mp among
      exact Store.storable_of_changeMicros? changed
    · cases among

namespace Tombstones

/-- A row of an entity that was removed at a moment. -/
def row (id changed : String) : Document :=
  .object [("deleted", .boolean true), ("id", .text id), ("updatedAt", .text changed)]

/-- A remote that gives one page with a link to a further one, which it fails to give. The
row that changed last comes first, and one row is no entity. -/
def remote : Remote Unit
  | .query _ _, _ =>
    (⟨[], false, .ok ⟨200, none, some (.object [("items", .array
      [row "1" "1970-01-01T00:00:02Z", .null, row "2" "1970-01-01T00:00:01Z"]),
      ("nextLink", .text "more")])⟩⟩, ())
  | _, _ => (⟨[], false, .ok ⟨500, none, none⟩⟩, ())

/-- A pull that takes two pages at most. -/
def options : PullOptions := ⟨fun _ => "", 1, 2⟩

/-- A pull that starts from the empty store. -/
def run : Run Unit := ⟨.empty, (), .never, [], ⟨0, 0⟩⟩

/-- The rows of the first page are applied, and the watermark is that of the first row. -/
theorem pulled_watermark_exact_tombstones :
    Store.empty.Dated ∧
      (run.pulledRows remote options (.all "todo")).filterMap Document.changeMicros? =
        [2000000, 1000000] ∧
      (run.pullQuery remote options (.all "todo")).2.store.watermark? "dt.todo.all" =
        some 2000000 := by
  have moments : (run.pulledRows remote options (.all "todo")).filterMap Document.changeMicros? =
      [2000000, 1000000] := rfl
  refine ⟨.empty, moments, ?_⟩
  obtain ⟨exactly, -⟩ :=
    @pulled_watermark_exact _ remote options run (.all "todo") .empty
  rw [moments] at exactly
  exact exactly

end Tombstones

end OfflineSync
