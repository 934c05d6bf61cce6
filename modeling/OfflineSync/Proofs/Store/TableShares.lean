import OfflineSync.Proofs.Entity.Names
import OfflineSync.Proofs.Store.Effects
import OfflineSync.Proofs.Store.RaisedWatermarks

/-!
# The share of a table in the store

A table has a share in the store, which `SameShare` compares: the local copies of its entities and
the watermarks of its queries. A pulled row is decided by the share of its table, and written there,
`sameShare_applyPage`. Watermarks lie under keys that are put together from names, but the name of a
table has no dot in it, so no key belongs to two tables.
-/

namespace OfflineSync

/-- A token key tells the table, if tables have no dots in their names. -/
theorem TokenKey.table_of_ofQuery {table other queryId otherId : String}
    (plain : '.' ∉ table.toList) (otherPlain : '.' ∉ other.toList)
    (same : ofQuery table queryId = ofQuery other otherId) :
    table = other := by
  have upToDot {name : String} (plain : '.' ∉ name.toList) (rest : List Char) :
      (name.toList ++ '.' :: rest).takeWhile (· != '.') = name.toList := by
    rw [List.takeWhile_append_of_pos, List.takeWhile_cons_of_neg (by decide), List.append_nil]
    intro letter among
    exact bne_iff_ne.mpr fun dot => plain (dot ▸ among)
  have letters : table.toList ++ '.' :: queryId.toList = other.toList ++ '.' :: otherId.toList := by
    have keys := congrArg String.toList same
    simpa [ofQuery, ofTable, String.toList_append] using keys
  have names := congrArg (List.takeWhile (· != '.')) letters
  rw [upToDot plain, upToDot otherPlain] at names
  exact String.toList_inj.mp names

namespace Store

/-- Whether two stores agree on the share of a table: its copies, and the tokens of its queries
(`ofQuery`). -/
structure SameShare (table : String) (left right : Store) : Prop where
  entity? : ∀ id, left.entity? ⟨table, id⟩ = right.entity? ⟨table, id⟩
  watermark? : ∀ queryId, left.watermark? (TokenKey.ofQuery table queryId) =
    right.watermark? (TokenKey.ofQuery table queryId)

variable {store left right : Store} {table other queryId tokenKey : String} {row : Document}
  {metadata : EntityMetadata} {rows : List Document} {key : EntityKey} {change : CopyChange}

/-! ### What decides a pulled row -/

/-- What a pulled row does and the change that it makes, as the copy of its entity decides. -/
def pulling (table : String) (row : Document) (metadata : EntityMetadata)
    (copy : Option EntityRow) : Except StoreError (RowOutcome × Option CopyChange) := do
  match metadata.deleted, (← readCopy ⟨table, metadata.id⟩ copy).isSome with
  | true, true => return (.deleted, some ⟨⟨table, metadata.id⟩, none⟩)
  | true, false => return (.skipped, none)
  | false, false => return (.inserted, some (← placing table row))
  | false, true => return (.replaced, some (← merging table row copy))

/-- A pulled row is decided by the copy of its entity (`pulling`), written, and then noted. -/
theorem applyKnownRow_eq_map (usable : EntityMetadata.ofDocument row = .ok metadata) :
    store.applyKnownRow table row metadata tokenKey =
      (pulling table row metadata (store.entity? ⟨table, metadata.id⟩)).map fun decided =>
        (decided.1, (store.writeCopy decided.2).noteChange tokenKey metadata) := by
  have merges : store.mergeEntity table row =
      (merging table row (store.entity? ⟨table, metadata.id⟩)).map fun change =>
        store.writeCopy (some change) :=
    mergeEntity_eq_map fun again usableAgain => by cases usable.symm.trans usableAgain; rfl
  have places : store.putEntity table row =
      (placing table row).map fun change => store.writeCopy (some change) := putEntity_eq_map
  unfold applyKnownRow pulling
  rw [merges, places]
  change (store.readEntity ⟨table, metadata.id⟩ >>= _) =
    Except.map _ (store.readEntity ⟨table, metadata.id⟩ >>= _)
  cases store.readEntity ⟨table, metadata.id⟩ with
  | error fault => rfl
  | ok present =>
    cases present with
    | none =>
      cases metadata.deleted with
      | true => rfl
      | false => cases placing table row <;> rfl
    | some present =>
      cases metadata.deleted with
      | true => rfl
      | false => cases merging table row (store.entity? ⟨table, metadata.id⟩) <;> rfl

/-- A document is placed in its table. -/
theorem table_of_placing (places : placing table row = .ok change) : change.key.table = table := by
  obtain ⟨metadata, -, same⟩ := bind_eq_ok.mp places
  cases same
  rfl

/-- A remote document is merged in its table. -/
theorem table_of_merging {copy : Option EntityRow} (merges : merging table row copy = .ok change) :
    change.key.table = table := by
  obtain ⟨metadata, -, merges⟩ := bind_eq_ok.mp merges
  obtain ⟨_ | present, -, places⟩ := bind_eq_ok.mp merges
  · exact table_of_placing places
  · exact table_of_placing places

/-- A pulled row changes a copy of its table, if any: `pulling` names no other. -/
theorem table_of_pulling {copy : Option EntityRow} {outcome : RowOutcome}
    (pulls : pulling table row metadata copy = .ok (outcome, some change)) :
    change.key.table = table := by
  obtain ⟨present, -, decided⟩ := bind_eq_ok.mp pulls
  cases deleted : metadata.deleted with
  | true =>
    cases present with
    | none =>
      rw [deleted] at decided
      cases decided
    | some present =>
      rw [deleted] at decided
      cases decided
      rfl
  | false =>
    cases present with
    | none =>
      simp only [deleted, Option.isSome_none, bind_eq_ok, pure_eq_ok] at decided
      obtain ⟨placed, places, same⟩ := decided
      cases same
      exact table_of_placing places
    | some present =>
      simp only [deleted, Option.isSome_some, bind_eq_ok, pure_eq_ok] at decided
      obtain ⟨merged, merges, same⟩ := decided
      cases same
      exact table_of_merging merges

/-- A changed copy is found as it was written, and every other copy stays. -/
@[simp] theorem entity?_writeCopy (store : Store) (change : CopyChange) (key : EntityKey) :
    (store.writeCopy (some change)).entity? key =
      if change.key = key then change.row else store.entity? key := by
  obtain ⟨written, _ | row⟩ := change
  · exact store.entity?_removeEntity written key
  · exact KeyedList.get?_insert written key row store.entities

/-- A change of a copy keeps the watermarks. -/
@[simp] theorem watermark?_writeCopy (store : Store) (change : Option CopyChange)
    (tokenKey : String) :
    (store.writeCopy change).watermark? tokenKey = store.watermark? tokenKey := by
  obtain _ | ⟨written, _ | row⟩ := change <;> rfl

namespace SameShare

theorem refl (table : String) (store : Store) : SameShare table store store :=
  ⟨fun _ => rfl, fun _ => rfl⟩

theorem symm (same : SameShare table left right) : SameShare table right left :=
  ⟨fun id => (same.entity? id).symm, fun queryId => (same.watermark? queryId).symm⟩

theorem trans {middle : Store} (first : SameShare table left middle)
    (second : SameShare table middle right) : SameShare table left right :=
  ⟨fun id => (first.entity? id).trans (second.entity? id),
    fun queryId => (first.watermark? queryId).trans (second.watermark? queryId)⟩

/-- Whether a query has a watermark, and which, is in the share of its table. -/
theorem watermarkAt (same : SameShare table left right) (queryId : String) :
    left.watermarkAt (TokenKey.ofQuery table queryId) =
      right.watermarkAt (TokenKey.ofQuery table queryId) := by
  rw [Store.watermarkAt, same.watermark? queryId, Store.watermarkAt]

/-- The same row, written and noted in two stores, leaves them agreed. -/
theorem write (same : SameShare table left right) (change : Option CopyChange) (tokenKey : String)
    (metadata : EntityMetadata) :
    SameShare table ((left.writeCopy change).noteChange tokenKey metadata)
      ((right.writeCopy change).noteChange tokenKey metadata) := by
  refine ⟨fun id => ?_, fun queryId => ?_⟩
  · cases change with
    | none => simpa using same.entity? id
    | some change => simp [same.entity? id]
  · simp [same.watermark? queryId]

/-- A row of one table leaves the share of every other one (`SameShare`). -/
theorem of_write {change : Option CopyChange} (plain : '.' ∉ table.toList)
    (otherPlain : '.' ∉ other.toList) (apart : other ≠ table)
    (within : ∀ written, change = some written → written.key.table = table) (queryId : String)
    (metadata : EntityMetadata) :
    SameShare other store
      ((store.writeCopy change).noteChange (TokenKey.ofQuery table queryId) metadata) := by
  refine ⟨fun id => ?_, fun otherId => ?_⟩
  · cases change with
    | none => simp
    | some change =>
      have differs : change.key ≠ ⟨other, id⟩ := fun same =>
        apart ((congrArg EntityKey.table same).symm.trans (within change rfl))
      simp [differs]
  · have differs : TokenKey.ofQuery table queryId ≠ TokenKey.ofQuery other otherId := fun same =>
      apart (TokenKey.table_of_ofQuery plain otherPlain same).symm
    simp [differs]

end SameShare

/-! ### Pages -/

/-- A page of a table is decided by the share of the table, and leaves stores that agree
there agreed. -/
theorem applyPage_congr (same : SameShare table left right) (tokenKey : String)
    (rows : List Document) :
    (left.applyPage table tokenKey rows).1 = (right.applyPage table tokenKey rows).1 ∧
      SameShare table (left.applyPage table tokenKey rows).2
        (right.applyPage table tokenKey rows).2 := by
  induction rows generalizing left right with
  | nil => exact ⟨rfl, same⟩
  | cons row rest inductionHypothesis =>
    unfold applyPage
    cases usable : EntityMetadata.ofDocument row with
    | error fault =>
      obtain ⟨counts, agreed⟩ := inductionHypothesis same
      exact ⟨congrArg (Except.map _) counts, agreed⟩
    | ok metadata =>
      simp only [applyKnownRow_eq_map usable, same.entity?]
      cases pulling table row metadata (right.entity? ⟨table, metadata.id⟩) with
      | error fault => exact ⟨rfl, same⟩
      | ok decided =>
        obtain ⟨counts, agreed⟩ := inductionHypothesis (same.write decided.2 tokenKey metadata)
        exact ⟨congrArg (Except.map _) counts, agreed⟩

/-- A page of one table, by `applyPage`, leaves the share of every other one. -/
theorem sameShare_applyPage (plain : '.' ∉ table.toList) (otherPlain : '.' ∉ other.toList)
    (apart : other ≠ table) (queryId : String) (rows : List Document) (store : Store) :
    SameShare other store (store.applyPage table (TokenKey.ofQuery table queryId) rows).2 := by
  refine applyPage_induction (motive := fun next _ => SameShare other store next)
    (.refl other store) ?_ ?_
  · exact fun _ _ _ _ _ _ same => same
  · intro row _ metadata usable before outcome after applied done same
    rw [applyKnownRow_eq_map usable] at applied
    obtain ⟨⟨told, change⟩, decided, wrote⟩ := map_eq_ok.mp applied
    have within (written : CopyChange) (some : change = some written) :
        written.key.table = table := table_of_pulling (some ▸ decided)
    cases wrote
    exact same.trans (SameShare.of_write plain otherPlain apart within queryId metadata)

end Store

end OfflineSync
