import OfflineSync.Proofs.Calendar.Range
import OfflineSync.Proofs.Entity.Metadata
import OfflineSync.Proofs.Store.Reachable

/-!
# How far watermarks rise

A watermark is the latest moment of change of the rows that were applied under its token key, and of
what it was before, as `raisedTo` says. Rows are applied one by one, so that a page that fails
leaves the watermark at the rows before the failing one, `watermark?_applyPage`. Every other call
keeps the watermarks, removes some or raises one by hand, and each watermark of a `Dated` store can
be read back.
-/

namespace OfflineSync

/-- The moment of last change of a row with usable metadata, as watermarks keep it. -/
def Document.changeMicros? (row : Document) : Option Int :=
  match EntityMetadata.ofDocument row with
  | .ok metadata => metadata.updatedMicros
  | .error _ => none

/-- A watermark after moments of change: the latest of them and of what it was. -/
def raisedTo (token : Option Int) (moments : List Int) : Option Int :=
  (token.toList ++ moments).max?

section Raising

variable (token : Option Int) (moment : Int) (moments later : List Int)

/-- Without a moment a watermark stays. -/
@[simp] theorem raisedTo_nil : raisedTo token [] = token := by
  cases token <;> rfl

/-- The first moment raises a watermark before the others do. -/
theorem raisedTo_cons :
    raisedTo token (moment :: moments) = raisedTo (raisedTo token [moment]) moments := by
  cases token <;> rfl

/-- Moments raise a watermark in turn: `raisedTo` may be stopped and taken up again. -/
theorem raisedTo_append :
    raisedTo token (moments ++ later) = raisedTo (raisedTo token moments) later := by
  induction moments generalizing token with
  | nil => rw [List.nil_append, raisedTo_nil]
  | cons moment rest inductionHypothesis =>
    rw [List.cons_append, raisedTo_cons, inductionHypothesis, ← raisedTo_cons]

/-- A watermark is absent exactly when there was none and no moment raised it. -/
theorem raisedTo_eq_none : raisedTo token moments = none ↔ token = none ∧ moments = [] := by
  rw [raisedTo, List.max?_eq_none_iff, List.append_eq_nil_iff, Option.toList_eq_nil_iff]

variable {token moment moments} {micros : Int}

/-- A raised watermark is what it was or one of the moments. -/
theorem mem_of_raisedTo (raised : raisedTo token moments = some micros) :
    token = some micros ∨ micros ∈ moments := by
  rcases List.mem_append.mp (List.max?_mem raised) with earlier | among
  · exact .inl (Option.mem_toList.mp earlier)
  · exact .inr among

/-- A watermark never falls, whatever it is `raisedTo`. -/
theorem le_raisedTo (held : token = some micros) :
    ∃ raised, raisedTo token moments = some raised ∧ micros ≤ raised := by
  cases raised : raisedTo token moments with
  | none => cases held.symm.trans ((raisedTo_eq_none token moments).mp raised).1
  | some latest =>
    refine ⟨latest, rfl, (List.max?_eq_some_iff.mp raised).2 micros ?_⟩
    exact List.mem_append_left _ (Option.mem_toList.mpr held)

end Raising

/-- The moment of last change that a document carries is `Storable`. -/
theorem EntityMetadata.storable_of_updatedAtOf {document : Document} {instant : Instant}
    (carries : updatedAtOf document = .ok (some instant)) : instant.Storable := by
  obtain ⟨text, -, reads⟩ := updatedAtOf_eq_some.mp carries
  exact Timestamp.storable_of_read reads

namespace Store

variable {store next placed : Store} {table tokenKey other : String} {row : Document}
  {metadata : EntityMetadata} {outcome : RowOutcome}

/-- A moment of change raises the watermark of its token key alone. -/
@[simp] theorem watermark?_advance (store : Store) (tokenKey other : String) (instant : Instant) :
    (store.advanceWatermark tokenKey instant).2.watermark? other =
      raisedTo (store.watermark? other) (if tokenKey = other then [instant.toMicros] else []) := by
  rw [watermark?_advanceWatermark]
  by_cases same : tokenKey = other
  · subst same
    rw [if_pos rfl, if_pos rfl]
    cases store.watermark? tokenKey <;> rfl
  · rw [if_neg same, if_neg same, raisedTo_nil]

/-- A row's moment of change, if it has one, raises the watermark of its token key alone. -/
@[simp] theorem watermark?_noted (store : Store) (tokenKey other : String)
    (metadata : EntityMetadata) :
    (store.noteChange tokenKey metadata).watermark? other = raisedTo (store.watermark? other)
      (if tokenKey = other then metadata.updatedMicros.toList else []) := by
  rw [noteChange, EntityMetadata.updatedMicros]
  cases metadata.updatedAt with
  | none => simp
  | some instant => simp

/-- A row raises the watermark to its moment of last change (`changeMicros?`). -/
theorem watermark?_applyKnownRow (usable : EntityMetadata.ofDocument row = .ok metadata)
    (applied : store.applyKnownRow table row metadata tokenKey = .ok (outcome, next)) :
    next.watermark? other = raisedTo (store.watermark? other)
      (if tokenKey = other then row.changeMicros?.toList else []) := by
  obtain ⟨placed, places, rfl⟩ := placesRow_of_applyKnownRow usable applied
  have unraised : placed.watermark? other = store.watermark? other := by
    rw [watermark?, places.differsInCopies.watermarks, watermark?]
  have moment : row.changeMicros? = metadata.updatedMicros := by
    rw [Document.changeMicros?, usable]
  simp [moment, unraised]

/-- A page raises the watermark, by `raisedTo`, to the latest moment of change of the rows
applied. -/
theorem watermark?_applyPage (store : Store) (table tokenKey other : String)
    (rows : List Document) :
    (store.applyPage table tokenKey rows).2.watermark? other = raisedTo (store.watermark? other)
      (if tokenKey = other then
        (store.appliedRows table tokenKey rows).filterMap Document.changeMicros? else []) := by
  refine applyPage_induction
    (motive := fun next done => next.watermark? other = raisedTo (store.watermark? other)
      (if tokenKey = other then done.filterMap Document.changeMicros? else [])) (by simp) ?_ ?_
  · intro row _ fault unusable before done raised
    have undated : row.changeMicros? = none := by rw [Document.changeMicros?, unusable]
    rw [raised, List.filterMap_append, List.filterMap_cons, undated, List.filterMap_nil,
      List.append_nil]
  · intro row _ metadata usable before outcome after applied done raised
    rw [watermark?_applyKnownRow usable applied, raised]
    by_cases same : tokenKey = other
    · simp only [if_pos same, ← raisedTo_append, List.filterMap_append]
      cases moment : row.changeMicros? <;> simp [moment]
    · simp only [if_neg same, raisedTo_nil]

/-! ### Calls that keep the watermarks -/

/-- Whether two stores have the same watermarks. -/
def SameWatermarks (before after : Store) : Prop :=
  after.watermarks = before.watermarks

namespace SameWatermarks

variable {queued : Store} {mutation : Mutation} {now : Instant} {sent : Operation}
  {body : Option Document} {version : Option String} {settlement : Settlement}

/-- A watermark that is kept is found as it was. -/
theorem watermark? (same : SameWatermarks store next) (tokenKey : String) :
    next.watermark? tokenKey = store.watermark? tokenKey := by
  rw [Store.watermark?, same, Store.watermark?]

/-- Queuing an edit (`Enqueues`) keeps the watermarks. -/
theorem of_enqueues (enqueues : store.Enqueues mutation now queued) :
    SameWatermarks store queued := by
  cases enqueues <;> rfl

/-- An accepted edit keeps the watermarks. -/
theorem of_recordLocalMutation {outcome : EnqueueOutcome}
    (recorded : store.recordLocalMutation mutation now = .ok (outcome, next)) :
    SameWatermarks store next := by
  obtain ⟨queued, enqueues, writes⟩ := recordLocalMutation_eq_ok recorded
  exact writes.differsInCopies.watermarks.trans (of_enqueues enqueues)

/-- Rebasing keeps the watermarks. -/
theorem of_rebase {current : Operation} {kind : OperationKind}
    (rebased : store.rebase current kind version = .ok next) : SameWatermarks store next :=
  (differs_rebase rebased).watermarks

/-- A completed push (`CompletesPush`) keeps the watermarks. -/
theorem of_completesPush (completes : store.CompletesPush sent body version now settlement next) :
    SameWatermarks store next := by
  cases completes with
  | rebased found newer rebased => exact of_rebase rebased
  | settled found same adopts => exact (differs_adoptAnswer adopts).watermarks
  | vanished gone keeps => rfl
  | recreated gone creates found rebased => exact of_rebase rebased
  | undone gone creates free => rfl

/-- A conceded conflict (`SettlesWithServer`) keeps the watermarks. -/
theorem of_settlesWithServer {document : Document}
    (settles : store.SettlesWithServer sent document metadata now settlement next) :
    SameWatermarks store next := by
  cases settles with
  | rebased found newer rebased => exact of_rebase rebased
  | removed found same deleted => rfl
  | adopted found same live merges => exact (differs_mergeEntity merges).watermarks
  | vanished gone => rfl

/-- A noted failure keeps the watermarks. -/
theorem of_recordsFailure {status : Option Int} {reason : String} {marked : Bool}
    (records : store.RecordsFailure sent status reason now marked next) :
    SameWatermarks store next := by
  cases records <;> rfl

end SameWatermarks

/-! ### Watermarks that can be read back -/

/-- Whether every watermark can be read back as a moment. -/
def Readable (store : Store) : Prop :=
  ∀ tokenKey micros, store.watermark? tokenKey = some micros → (Instant.ofMicros? micros).isSome

/-- The calls, where a watermark is raised by hand to a moment that can be stored. -/
inductive DatedStep (store : Store) : Store → Prop where
  | keeping {next : Store} (call : Step store next) (same : SameWatermarks store next) :
      DatedStep store next
  | pulled {table tokenKey : String} {row : Document} {outcome : RowOutcome} {next : Store}
      (applied : store.applyRemoteRow table row tokenKey = .ok (outcome, next)) :
      DatedStep store next
  | purged (table : String) (discard : Bool) : DatedStep store (store.purgeTable table discard).2
  | advanced (tokenKey : String) {instant : Instant} (storable : instant.Storable) :
      DatedStep store (store.advanceWatermark tokenKey instant).2
  | reset (tokenKey : String) : DatedStep store (store.resetWatermark tokenKey).2
  | resetTable (table : String) : DatedStep store (store.resetTableWatermarks table).2

/-- The stores that such calls (`DatedStep`) lead to from the empty one. -/
inductive Dated : Store → Prop where
  | empty : Dated empty
  | step {store next : Store} (earlier : Dated store) (call : DatedStep store next) : Dated next

/-- Every call is such a call, but for a watermark that is raised by hand beyond the days
that a stored moment can have. -/
theorem Step.dated (call : Step store next) :
    DatedStep store next ∨ ∃ tokenKey instant, ¬ instant.Storable ∧
      next = (store.advanceWatermark tokenKey instant).2 := by
  cases call with
  | edited recorded =>
    exact .inl (.keeping (.edited recorded) (.of_recordLocalMutation recorded))
  | enqueued queued =>
    exact .inl (.keeping (.enqueued queued) (.of_enqueues (enqueues_of_enqueue queued)))
  | pushed completed =>
    exact .inl (.keeping (.pushed completed)
      (.of_completesPush (completesPush_of_completePush completed)))
  | conceded settled =>
    obtain ⟨document, metadata, -, settles⟩ := settlesWithServer_of_settleWithServer settled
    exact .inl (.keeping (.conceded settled) (.of_settlesWithServer settles))
  | failed noted =>
    exact .inl (.keeping (.failed noted)
      (.of_recordsFailure (recordsFailure_of_recordFailure noted)))
  | pulled applied => exact .inl (.pulled applied)
  | cleared => exact .inl (.keeping .cleared rfl)
  | purged table discard => exact .inl (.purged table discard)
  | advanced tokenKey instant =>
    by_cases storable : instant.Storable
    · exact .inl (.advanced tokenKey storable)
    · exact .inr ⟨tokenKey, instant, storable, rfl⟩
  | reset tokenKey => exact .inl (.reset tokenKey)
  | resetTable table => exact .inl (.resetTable table)

/-- A row is dated by a moment that can be stored. -/
theorem storable_of_changeMicros? {micros : Int} (changed : row.changeMicros? = some micros) :
    (Instant.ofMicros? micros).isSome := by
  unfold Document.changeMicros? at changed
  split at changed
  · rename_i metadata usable
    obtain ⟨instant, dated, rfl⟩ := Option.map_eq_some_iff.mp changed
    obtain ⟨-, -, -, changes, -⟩ := EntityMetadata.ofDocument_eq_ok.mp usable
    exact EntityMetadata.storable_of_updatedAtOf (changes.trans (congrArg Except.ok dated))
  · cases changed

/-- Moments that can be stored raise a watermark to one that can be read back (`raisedTo`). -/
theorem storable_of_raisedTo {token : Option Int} {moments : List Int} {micros : Int}
    (held : ∀ micros, token = some micros → (Instant.ofMicros? micros).isSome)
    (storable : ∀ moment ∈ moments, (Instant.ofMicros? moment).isSome)
    (raised : raisedTo token moments = some micros) : (Instant.ofMicros? micros).isSome := by
  rcases mem_of_raisedTo raised with earlier | among
  · exact held micros earlier
  · exact storable micros among

/-- A watermark that is there after `resetWatermark` was there before. -/
theorem held_of_resetWatermark {micros : Int}
    (found : (store.resetWatermark tokenKey).2.watermark? other = some micros) :
    store.watermark? other = some micros := by
  rw [resetWatermark, watermark?, KeyedList.get?_erase] at found
  split at found
  · cases found
  · exact found

/-- A watermark that is there after `resetTableWatermarks` was there before. -/
theorem held_of_resetTableWatermarks {micros : Int}
    (found : (store.resetTableWatermarks table).2.watermark? other = some micros) :
    store.watermark? other = some micros := by
  rw [resetTableWatermarks, watermark?,
    KeyedList.get?_filter fun present => !TokenKey.belongsTo table present] at found
  split at found
  · exact found
  · cases found

/-- Such a call leaves watermarks that can be read back (`Readable`). -/
theorem DatedStep.readable (call : DatedStep store next) (readable : store.Readable) :
    next.Readable := by
  intro other micros found
  cases call with
  | keeping call same => exact readable other micros ((same.watermark? other).symm.trans found)
  | pulled applied =>
    obtain ⟨metadata, usable, known⟩ := bind_eq_ok.mp applied
    rw [watermark?_applyKnownRow (metadataOf_eq_ok.mp usable) known] at found
    refine storable_of_raisedTo (readable other) (fun moment among => ?_) found
    split at among
    · exact storable_of_changeMicros? (Option.mem_toList.mp among)
    · cases among
  | purged table discard =>
    have kept : ((store.removeTable table).resetTableWatermarks table).2.watermark? other =
        some micros := by
      cases discard <;> exact found
    exact readable other micros (held_of_resetTableWatermarks kept)
  | advanced tokenKey storable =>
    rw [watermark?_advance] at found
    refine storable_of_raisedTo (readable other) (fun moment among => ?_) found
    split at among
    · rw [List.mem_singleton.mp among]
      exact storable
    · cases among
  | reset tokenKey => exact readable other micros (held_of_resetWatermark found)
  | resetTable table => exact readable other micros (held_of_resetTableWatermarks found)

/-- Watermarks that were raised to moments that can be stored can be read back: a `Dated` store is
`Readable`. -/
theorem Dated.readable (dated : Dated store) : store.Readable := by
  induction dated with
  | empty => exact nofun
  | step earlier call inductionHypothesis => exact call.readable inductionHypothesis

end Store

end OfflineSync
