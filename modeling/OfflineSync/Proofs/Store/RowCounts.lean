import OfflineSync.Proofs.Store.Copies
import OfflineSync.Proofs.Store.Legibility
import OfflineSync.Proofs.Store.RaisedWatermarks

/-!
# Counting the rows of a page

Each row of a page is counted once, and only a row that stores a new copy or removes one changes how
many local copies a table has: `Gains` says that of a store and the counts. So the counts of a page
add up to its rows, and tell how many more copies there are after it; and so do the counts of the
rows before one that the store refuses, `applyPage_counts`.
-/

namespace OfflineSync

namespace PageCounts

/-- How many rows were counted. -/
def total (counts : PageCounts) : Nat :=
  counts.additions + counts.replacements + counts.deletions + counts.skipped

/-- Whether a number of copies has come from an earlier one as the counts tell. -/
def Balances (counts : PageCounts) (before after : Nat) : Prop :=
  after + counts.deletions = before + counts.additions

variable {counts left right : PageCounts} {before middle after : Nat}

@[simp] theorem total_count (counts : PageCounts) (outcome : RowOutcome) :
    (counts.count outcome).total = counts.total + 1 := by
  cases outcome <;> simp only [total, count] <;> omega

@[simp] theorem total_add (left right : PageCounts) :
    (left.add right).total = left.total + right.total := by
  simp only [total, add]
  omega

theorem none_add (counts : PageCounts) : none.add counts = counts := by
  simp only [add, none, Nat.zero_add]

theorem add_assoc (first second third : PageCounts) :
    (first.add second).add third = first.add (second.add third) := by
  simp only [add, Nat.add_assoc]

/-- Counts of two parts tell what both have done. -/
theorem Balances.add (first : left.Balances before middle) (second : right.Balances middle after) :
    (left.add right).Balances before after := by
  simp only [Balances, PageCounts.add] at *
  omega

/-- To `count` a row is to `add` the counts of one row. -/
theorem count_eq_add (counts : PageCounts) (outcome : RowOutcome) :
    counts.count outcome = (none.count outcome).add counts := by
  cases outcome <;> simp [count, add, none, Nat.add_comm]

end PageCounts

namespace Store

variable {store next : Store} {table tokenKey other : String} {row document : Document}
  {metadata : EntityMetadata} {outcome : RowOutcome} {key : EntityKey}

/-! ### Numbers of copies -/

/-- Stores with the same local copies have as many of each table, by `countTable`. -/
theorem countTable_congr (same : next.entities = store.entities) (table : String) :
    next.countTable table = store.countTable table := by
  rw [countTable, same, countTable]

/-- A row's moment of change is no copy of any table. -/
@[simp] theorem countTable_noteChange (store : Store) (tokenKey : String)
    (metadata : EntityMetadata) (table : String) :
    (store.noteChange tokenKey metadata).countTable table = store.countTable table :=
  countTable_congr (store.entities_noteChange tokenKey metadata) table

theorem countTable_cons_of_perm {entries : KeyedList EntityKey EntityRow} {copy : EntityRow}
    (perm : store.entities.Perm ((key, copy) :: entries)) (table : String) :
    store.countTable table =
      (entries.filter fun entry => entry.1.table == table).length +
        if key.table = table then 1 else 0 := by
  rw [countTable, (perm.filter _).length_eq, List.filter_cons]
  by_cases same : key.table = table <;> simp [same]

/-- A removed copy is one less of its table. -/
theorem countTable_of_found (ascending : KeyedList.Ascending store.entities) {copy : EntityRow}
    (found : store.entity? key = some copy) (table : String) :
    store.countTable table =
      (store.removeEntity key).countTable table + if key.table = table then 1 else 0 :=
  countTable_cons_of_perm (KeyedList.perm_of_get? ascending.nodup_keys found) table

/-- Removing a copy that is not there removes none. -/
theorem countTable_of_absent (absent : store.entity? key = none) (table : String) :
    (store.removeEntity key).countTable table = store.countTable table :=
  countTable_congr (KeyedList.erase_eq_self absent) table

/-- A document that `putEntity` writes is one more copy of its table than without one under its
key. -/
theorem countTable_putEntity (ascending : KeyedList.Ascending store.entities)
    (usable : EntityMetadata.ofDocument document = .ok metadata)
    (written : store.putEntity table document = .ok next) (other : String) :
    next.countTable other =
      (store.removeEntity ⟨table, metadata.id⟩).countTable other +
        if table = other then 1 else 0 := by
  obtain ⟨_, again, rfl⟩ := putEntity_eq_ok.mp written
  cases usable.symm.trans again
  have placed : (store.withCopy table document metadata).entities.Perm
      ((⟨table, metadata.id⟩, .ofDocument document metadata) ::
        (store.removeEntity ⟨table, metadata.id⟩).entities) := ascending.perm_insert _ _
  exact countTable_cons_of_perm placed other

/-! ### Rows -/

/-- A document that is laid over another is of the same entity afterwards. -/
theorem id_of_overlay {older : Document} {merged : EntityMetadata} (ordered : row.Ascends)
    (usable : EntityMetadata.ofDocument row = .ok metadata)
    (overlaid : EntityMetadata.ofDocument (older.overlay row) = .ok merged) :
    merged.id = metadata.id := by
  obtain ⟨-, names, -⟩ := EntityMetadata.ofDocument_eq_ok.mp usable
  obtain ⟨-, mergedNames, -⟩ := EntityMetadata.ofDocument_eq_ok.mp overlaid
  rw [EntityMetadata.idOf_overlay names ordered] at mergedNames
  exact (Except.ok.inj mergedNames).symm

/-- Whether a table has gained and lost as many copies as counts tell, and no other table
has more or less than before. -/
structure Gains (table : String) (counts : PageCounts) (before after : Store) : Prop where
  own : counts.Balances (before.countTable table) (after.countTable table)
  others : ∀ other, other ≠ table → after.countTable other = before.countTable other

namespace Gains

variable {before middle after : Store} {left right counts : PageCounts}

theorem refl (table : String) (store : Store) : Gains table .none store store :=
  ⟨rfl, fun _ _ => rfl⟩

theorem add (first : Gains table left before middle) (second : Gains table right middle after) :
    Gains table (left.add right) before after :=
  ⟨first.own.add second.own, fun other differs =>
    (second.others other differs).trans (first.others other differs)⟩

/-- What a counted row has done comes before what the other rows have. -/
theorem count (first : Gains table (PageCounts.none.count outcome) before middle)
    (rest : Gains table counts middle after) : Gains table (counts.count outcome) before after := by
  rw [PageCounts.count_eq_add]
  exact first.add rest

end Gains

/-- The outcome of a row tells whether its table has a copy more or less (`Gains`). -/
theorem PlacesRow.gains (places : store.PlacesRow table row metadata outcome next)
    (ascending : KeyedList.Ascending store.entities)
    (usable : EntityMetadata.ofDocument row = .ok metadata) (ordered : row.Ascends) :
    Gains table (PageCounts.none.count outcome) store next := by
  cases places with
  | skipped removes absent => exact ⟨rfl, fun _ _ => rfl⟩
  | deleted removes found =>
    have held := countTable_of_found ascending found
    refine ⟨?_, fun other differs => ?_⟩
    · rw [PageCounts.Balances, held, if_pos rfl]
      rfl
    · rw [held other, if_neg differs.symm, Nat.add_zero]
  | inserted keeps absent written =>
    have placed := countTable_putEntity ascending usable written
    simp only [countTable_of_absent absent] at placed
    refine ⟨?_, fun other differs => ?_⟩
    · rw [PageCounts.Balances, placed, if_pos rfl]
      rfl
    · rw [placed other, if_neg differs.symm, Nat.add_zero]
  | replaced keeps found denotes written =>
    obtain ⟨merged, overlaid, -⟩ := putEntity_eq_ok.mp written
    have held := countTable_of_found ascending found
    have placed := countTable_putEntity ascending overlaid written
    rw [id_of_overlay ordered usable overlaid] at placed
    simp only [← held] at placed
    exact ⟨congrArg (· + 0) (placed table), fun other _ => placed other⟩

/-- The outcome of an applied row tells whether its table has a copy more or less, and the
copies stay in the order of their keys. -/
theorem gains_applyKnownRow (ascending : KeyedList.Ascending store.entities)
    (usable : EntityMetadata.ofDocument row = .ok metadata) (ordered : row.Ascends)
    (applied : store.applyKnownRow table row metadata tokenKey = .ok (outcome, next)) :
    Gains table (PageCounts.none.count outcome) store next ∧
      KeyedList.Ascending next.entities := by
  obtain ⟨placed, places, rfl⟩ := placesRow_of_applyKnownRow usable applied
  obtain ⟨own, others⟩ := places.gains ascending usable ordered
  refine ⟨⟨?_, fun other differs => ?_⟩, ?_⟩
  · simpa using own
  · simpa using others other differs
  · simpa using places.rewrites.ascending ascending

/-! ### Pages -/

/-- The rows of a page that are applied (`appliedRows`) are counted, each once, and the counts tell
how many more copies the table has. They are the counts of the page unless it is refused. -/
theorem applyPage_counts (store : Store) (table tokenKey : String) (rows : List Document) :
    ∃ counts : PageCounts, counts.total = (store.appliedRows table tokenKey rows).length ∧
      (∀ told, (store.applyPage table tokenKey rows).1 = .ok told → told = counts) ∧
      (KeyedList.Ascending store.entities → (∀ row ∈ rows, row.Ascends) →
        Gains table counts store (store.applyPage table tokenKey rows).2) := by
  induction rows generalizing store with
  | nil => exact ⟨.none, rfl, fun told same => (Except.ok.inj same).symm, fun _ _ => .refl table store⟩
  | cons row rest inductionHypothesis =>
    unfold applyPage appliedRows
    cases usable : EntityMetadata.ofDocument row with
    | error fault =>
      obtain ⟨counts, total, told, gains⟩ := inductionHypothesis store
      refine ⟨counts.count .skipped, ?_, fun answer counted => ?_, fun ascending ordered => ?_⟩
      · simp [total]
      · change (store.applyPage table tokenKey rest).1.map _ = _ at counted
        obtain ⟨later, answered, rfl⟩ := map_eq_ok.mp counted
        rw [told later answered]
      · have skipped : Gains table (PageCounts.none.count .skipped) store store :=
          ⟨rfl, fun _ _ => rfl⟩
        exact skipped.count (gains ascending (List.forall_mem_cons.mp ordered).2)
    | ok metadata =>
      dsimp only
      cases applied : store.applyKnownRow table row metadata tokenKey with
      | error fault =>
        exact ⟨.none, rfl, fun told same => (by cases same), fun _ _ => .refl table store⟩
      | ok result =>
        obtain ⟨outcome, next⟩ := result
        obtain ⟨counts, total, told, gains⟩ := inductionHypothesis next
        refine ⟨counts.count outcome, ?_, fun answer counted => ?_, fun ascending ordered => ?_⟩
        · simp [total]
        · change (next.applyPage table tokenKey rest).1.map _ = _ at counted
          obtain ⟨later, answered, rfl⟩ := map_eq_ok.mp counted
          rw [told later answered]
        · obtain ⟨first, others⟩ := List.forall_mem_cons.mp ordered
          obtain ⟨own, nextAscending⟩ := gains_applyKnownRow ascending usable first applied
          exact own.count (gains nextAscending others)

/-- The counts of a page that is not refused add up to its rows: their `total` is the length. -/
theorem total_of_applyPage {rows : List Document} {counts : PageCounts}
    (counted : (store.applyPage table tokenKey rows).1 = .ok counts) : counts.total = rows.length := by
  obtain ⟨same, total, told, -⟩ := applyPage_counts store table tokenKey rows
  rw [told counts counted, total, appliedRows_eq counted]

end Store

end OfflineSync
