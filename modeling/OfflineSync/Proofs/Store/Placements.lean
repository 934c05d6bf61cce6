import OfflineSync.Proofs.Store.Entities
import OfflineSync.Store.Pulled

/-!
# What a pulled row does

A pulled row removes the local copy of its entity, is placed as one or is laid over it, as
`PlacesRow` lists; the watermark of its query then rises. Queue and counter stay as they are,
whatever the rows of a page do. What holds of the store after each row holds after a page, by
`applyPage_induction`.
-/

namespace OfflineSync.Store

/-- What a pulled row does to the local copies, by its outcome. -/
inductive PlacesRow (store : Store) (table : String) (row : Document) (metadata : EntityMetadata) :
    RowOutcome → Store → Prop where
  | skipped (removes : metadata.deleted = true)
      (absent : store.entity? ⟨table, metadata.id⟩ = none) :
      PlacesRow store table row metadata .skipped store
  | deleted {copy : EntityRow} (removes : metadata.deleted = true)
      (found : store.entity? ⟨table, metadata.id⟩ = some copy) :
      PlacesRow store table row metadata .deleted (store.removeEntity ⟨table, metadata.id⟩)
  | inserted {placed : Store} (keeps : metadata.deleted = false)
      (absent : store.entity? ⟨table, metadata.id⟩ = none)
      (written : store.putEntity table row = .ok placed) :
      PlacesRow store table row metadata .inserted placed
  | replaced {copy : EntityRow} {older : Document} {placed : Store}
      (keeps : metadata.deleted = false)
      (found : store.entity? ⟨table, metadata.id⟩ = some copy)
      (denotes : Document.read copy.text = some older)
      (written : store.putEntity table (older.overlay row) = .ok placed) :
      PlacesRow store table row metadata .replaced placed

variable {store next placed : Store} {table tokenKey : String} {row : Document}
  {metadata : EntityMetadata} {outcome : RowOutcome} {key : EntityKey}

/-- A row writes to the local copies alone (`DiffersInCopies`). -/
theorem PlacesRow.differsInCopies (places : store.PlacesRow table row metadata outcome placed) :
    DiffersInCopies store placed := by
  cases places with
  | skipped removes absent => exact .refl store
  | deleted removes found => exact differs_removeEntity
  | inserted keeps absent written => exact differs_putEntity written
  | replaced keeps found denotes written => exact differs_putEntity written

/-- A row is placed (`PlacesRow`), and then the watermark rises by `noteChange`. -/
theorem placesRow_of_applyKnownRow (usable : EntityMetadata.ofDocument row = .ok metadata)
    (applied : store.applyKnownRow table row metadata tokenKey = .ok (outcome, next)) :
    ∃ placed, store.PlacesRow table row metadata outcome placed ∧
      placed.noteChange tokenKey metadata = next := by
  obtain ⟨present, read, applied⟩ := bind_eq_ok.mp applied
  cases deleted : metadata.deleted with
  | true =>
    cases present with
    | none =>
      simp only [deleted, Option.isSome_none, bind_eq_ok, pure_eq_ok] at applied
      obtain ⟨_, rfl, same⟩ := applied
      cases same
      exact ⟨store, .skipped deleted (readEntity_eq_ok_none.mp read), rfl⟩
    | some present =>
      simp only [deleted, Option.isSome_some, bind_eq_ok, pure_eq_ok] at applied
      obtain ⟨_, rfl, same⟩ := applied
      cases same
      obtain ⟨copy, found, -⟩ := readEntity_eq_ok_some.mp read
      exact ⟨_, .deleted deleted found, rfl⟩
  | false =>
    cases present with
    | none =>
      simp only [deleted, Option.isSome_none, bind_eq_ok, pure_eq_ok] at applied
      obtain ⟨placed, written, _, rfl, same⟩ := applied
      cases same
      exact ⟨placed, .inserted deleted (readEntity_eq_ok_none.mp read) written, rfl⟩
    | some present =>
      simp only [deleted, Option.isSome_some, bind_eq_ok, pure_eq_ok] at applied
      obtain ⟨placed, merges, _, rfl, same⟩ := applied
      cases same
      obtain ⟨copy, found, denoted⟩ := readEntity_eq_ok_some.mp read
      obtain ⟨older, denotes, rfl⟩ := EntityRow.read_eq_ok.mp denoted
      obtain ⟨_, usableAgain, merged⟩ := mergeEntity_eq_ok.mp merges
      cases usable.symm.trans usableAgain
      rcases merged with ⟨held, again, written⟩ | ⟨absent, -⟩
      · cases read.symm.trans again
        exact ⟨placed, .replaced deleted found denotes written, rfl⟩
      · cases absent.symm.trans found

/-! ### Pages -/

/-- The rows of a page that are applied: all of them, or those before the first that fails.
Rows without usable metadata are passed over and count as applied. -/
def appliedRows (store : Store) (table tokenKey : String) : List Document → List Document
  | [] => []
  | row :: rows =>
    match EntityMetadata.ofDocument row with
    | .error _ => row :: store.appliedRows table tokenKey rows
    | .ok metadata =>
      match store.applyKnownRow table row metadata tokenKey with
      | .error _ => []
      | .ok (_, next) => row :: next.appliedRows table tokenKey rows

/-- A page that does not fail is applied as a whole: `appliedRows` are all of its rows. -/
theorem appliedRows_eq {rows : List Document} {counts : PageCounts}
    (counted : (store.applyPage table tokenKey rows).1 = .ok counts) :
    store.appliedRows table tokenKey rows = rows := by
  induction rows generalizing store counts with
  | nil => rfl
  | cons row rest inductionHypothesis =>
    unfold applyPage at counted
    unfold appliedRows
    cases usable : EntityMetadata.ofDocument row with
    | error fault =>
      simp only [usable, map_eq_ok] at counted ⊢
      obtain ⟨later, counted, -⟩ := counted
      rw [inductionHypothesis counted]
    | ok metadata =>
      cases applied : store.applyKnownRow table row metadata tokenKey with
      | error fault => simp [usable, applied] at counted
      | ok result =>
        simp only [usable, applied, map_eq_ok] at counted ⊢
        obtain ⟨later, counted, -⟩ := counted
        rw [inductionHypothesis counted]

/-- The rows that are applied are the first of a page. -/
theorem appliedRows_prefix (store : Store) (table tokenKey : String) (rows : List Document) :
    store.appliedRows table tokenKey rows <+: rows := by
  induction rows generalizing store with
  | nil => exact List.nil_prefix
  | cons row rest inductionHypothesis =>
    unfold appliedRows
    split
    · exact (List.prefix_cons_inj row).mpr (inductionHypothesis store)
    · split
      · exact List.nil_prefix
      · exact (List.prefix_cons_inj row).mpr (inductionHypothesis _)

/-- What each row keeps, be it passed over or applied, is kept by the rows of a page that
are applied one after the other. -/
theorem applyPage_induction {motive : Store → List Document → Prop} {rows : List Document}
    (start : motive store [])
    (passes : ∀ row ∈ rows, ∀ fault, EntityMetadata.ofDocument row = .error fault →
      ∀ before done, motive before done → motive before (done ++ [row]))
    (applies : ∀ row ∈ rows, ∀ metadata, EntityMetadata.ofDocument row = .ok metadata →
      ∀ before outcome after, before.applyKnownRow table row metadata tokenKey = .ok (outcome, after) →
        ∀ done, motive before done → motive after (done ++ [row])) :
    motive (store.applyPage table tokenKey rows).2 (store.appliedRows table tokenKey rows) := by
  -- The rows before the first of those left stand in front of what the motive says of these.
  induction rows generalizing store motive with
  | nil => exact start
  | cons row rest inductionHypothesis =>
    obtain ⟨passesFirst, passesRest⟩ := List.forall_mem_cons.mp passes
    obtain ⟨appliesFirst, appliesRest⟩ := List.forall_mem_cons.mp applies
    have goesOn (next : Store) (reached : motive next [row]) :
        motive (next.applyPage table tokenKey rest).2
          (row :: next.appliedRows table tokenKey rest) :=
      inductionHypothesis (motive := fun after done => motive after (row :: done)) reached
        (fun other among fault usable before done =>
          passesRest other among fault usable before (row :: done))
        (fun other among metadata usable before outcome after applied done =>
          appliesRest other among metadata usable before outcome after applied (row :: done))
    unfold applyPage appliedRows
    cases usable : EntityMetadata.ofDocument row with
    | error fault => exact goesOn store (passesFirst fault usable store [] start)
    | ok metadata =>
      dsimp only
      cases applied : store.applyKnownRow table row metadata tokenKey with
      | error fault => exact start
      | ok result =>
        obtain ⟨outcome, next⟩ := result
        exact goesOn next (appliesFirst metadata usable store outcome next applied [] start)

/-! ### The queue -/

/-- A row whose metadata is known leaves queue and counter alone. -/
theorem queue_of_applyKnownRow (usable : EntityMetadata.ofDocument row = .ok metadata)
    (applied : store.applyKnownRow table row metadata tokenKey = .ok (outcome, next)) :
    next.queue = store.queue ∧ next.lastSequence = store.lastSequence := by
  obtain ⟨placed, places, rfl⟩ := placesRow_of_applyKnownRow usable applied
  have differs := places.differsInCopies
  exact ⟨by simpa using differs.queue, by simpa using differs.lastSequence⟩

/-- A pulled row leaves queue and counter alone. -/
theorem queue_of_applyRemoteRow
    (applied : store.applyRemoteRow table row tokenKey = .ok (outcome, next)) :
    next.queue = store.queue ∧ next.lastSequence = store.lastSequence := by
  obtain ⟨metadata, usable, known⟩ := bind_eq_ok.mp applied
  exact queue_of_applyKnownRow (metadataOf_eq_ok.mp usable) known

section ApplyPage

variable (store : Store) (table tokenKey : String) (rows : List Document)

/-- The rows of a page leave the queue alone, by `applyPage_induction`. -/
@[simp] theorem queue_applyPage :
    (store.applyPage table tokenKey rows).2.queue = store.queue := by
  refine applyPage_induction (motive := fun next _ => next.queue = store.queue) rfl ?_ ?_
  · exact fun _ _ _ _ _ _ kept => kept
  · intro row _ metadata usable before outcome after applied done kept
    exact (queue_of_applyKnownRow usable applied).1.trans kept

/-- The rows of a page take no number. -/
@[simp] theorem lastSequence_applyPage :
    (store.applyPage table tokenKey rows).2.lastSequence = store.lastSequence := by
  refine applyPage_induction (motive := fun next _ => next.lastSequence = store.lastSequence)
    rfl ?_ ?_
  · exact fun _ _ _ _ _ _ kept => kept
  · intro row _ metadata usable before outcome after applied done kept
    exact (queue_of_applyKnownRow usable applied).2.trans kept

end ApplyPage

end OfflineSync.Store
