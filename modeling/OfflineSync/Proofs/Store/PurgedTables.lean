import OfflineSync.Proofs.Store.TableShares

/-!
# Tables that are purged

A table is purged of its local copies, its tokens and, if that is asked for, its operations. Its
tokens are found by the start of their keys. The name of a table has neither a dot nor a null
character, so a key that starts like those of a table is the key of one of its queries
(`TokenKey.IsOf`), and no key is that of two queries, `ofQuery_inj`.
-/

namespace OfflineSync

namespace TokenKey

variable {table other tokenKey queryId otherId : String}

/-- Whether a token key is that of a query on a table. -/
def IsOf (table tokenKey : String) : Prop :=
  ∃ queryId, tokenKey = ofQuery table queryId

/-- The token keys of a table are the texts that start as they all do. -/
theorem isOf_iff_isPrefix : IsOf table tokenKey ↔ (ofTable table).toList <+: tokenKey.toList := by
  constructor
  · rintro ⟨queryId, rfl⟩
    exact ⟨queryId.toList, (String.toList_append).symm⟩
  · rintro ⟨rest, whole⟩
    refine ⟨String.ofList rest, String.toList_inj.mp ?_⟩
    rw [ofQuery, String.toList_append, String.toList_ofList, whole]

instance (table : String) : DecidablePred (IsOf table) := fun _ =>
  decidable_of_iff _ isOf_iff_isPrefix.symm

/-- The tokens that are found by the start of their keys, as `belongsTo` does, are those of the
table (`IsOf`). -/
theorem belongsTo_eq (valid : TableName.validate table = .ok ()) (tokenKey : String) :
    belongsTo table tokenKey = decide (IsOf table tokenKey) := by
  -- A start with a null character finds no key, and a valid name does not bring one in.
  have noNull : '\x00' ∉ (ofTable table).toList := by
    simp only [ofTable, String.toList_append, List.mem_append, not_or]
    exact ⟨⟨by decide, fun null => absurd (TableName.plain_of_mem valid null) (by decide)⟩,
      by decide⟩
  rw [Bool.eq_iff_iff]
  simp [belongsTo, isOf_iff_isPrefix, noNull]

/-- A token key, made by `ofQuery`, tells the table and the query. -/
theorem ofQuery_inj (valid : TableName.validate table = .ok ())
    (otherValid : TableName.validate other = .ok ())
    (same : ofQuery table queryId = ofQuery other otherId) : table = other ∧ queryId = otherId := by
  cases table_of_ofQuery (TableName.no_dot valid) (TableName.no_dot otherValid) same
  exact ⟨rfl, (String.append_right_inj _).mp same⟩

end TokenKey

namespace Store

variable {table other : String}

/-- The local copies of a table. -/
def copiesOf (store : Store) (table : String) : KeyedList EntityKey EntityRow :=
  store.entities.filter fun entry => entry.1.table == table

/-- The tokens of a table. -/
def tokensOf (store : Store) (table : String) : KeyedList String Int :=
  store.watermarks.filter fun entry => TokenKey.IsOf table entry.1

/-- The operations of a table, in any state. -/
def operationsOf (store : Store) (table : String) : List Operation :=
  store.queue.filter fun operation => operation.table == table

/-- Whether two stores hold the same data of a table: its `copiesOf`, `tokensOf` and
`operationsOf`. -/
structure SameTable (table : String) (left right : Store) : Prop where
  copies : left.copiesOf table = right.copiesOf table
  tokens : left.tokensOf table = right.tokensOf table
  operations : left.operationsOf table = right.operationsOf table

/-- A store without the tokens of a table. -/
def withoutTokens (store : Store) (table : String) : Store :=
  { store with watermarks := store.watermarks.filter fun entry => ¬ TokenKey.IsOf table entry.1 }

/-- A store without the local copies and the tokens of a table, and without its operations if
they are discarded. -/
def withoutTable (store : Store) (table : String) (discard : Bool) : Store :=
  { store.withoutTokens table with
    entities := store.entities.filter fun entry => entry.1.table != table
    queue :=
      if discard then store.queue.filter fun operation => operation.table != table
      else store.queue }

/-- What a filter drops is what it does not keep. -/
theorem length_sub_filter {α : Type} (drops : α → Bool) (rows : List α) :
    rows.length - (rows.filter fun row => !drops row).length = (rows.filter drops).length := by
  have whole := List.length_eq_length_filter_add (l := rows) drops
  omega

/-- A table is reset by dropping its tokens: `withoutTokens` is what is left. -/
theorem resetTableWatermarks_eq (valid : TableName.validate table = .ok ()) (store : Store) :
    store.resetTableWatermarks table =
      ((store.tokensOf table).length, store.withoutTokens table) := by
  simp only [resetTableWatermarks, TokenKey.belongsTo_eq valid, length_sub_filter, tokensOf,
    withoutTokens, decide_not]

/-- A table is purged by dropping what is its own: `withoutTable` is what is left. -/
theorem purgeTable_eq (valid : TableName.validate table = .ok ()) (store : Store) (discard : Bool) :
    store.purgeTable table discard =
      (⟨(store.copiesOf table).length, if discard then (store.operationsOf table).length else 0,
        (store.tokensOf table).length⟩, store.withoutTable table discard) := by
  have operations : store.queue.length -
      (store.queue.filter fun operation => operation.table != table).length =
        (store.operationsOf table).length :=
    length_sub_filter (fun operation : Operation => operation.table == table) store.queue
  have tokens : (store.removeTable table).tokensOf table = store.tokensOf table := rfl
  unfold purgeTable
  rw [resetTableWatermarks_eq valid, tokens]
  dsimp only
  rw [operations]
  cases discard with
  | false => rfl
  | true => rfl

/-- Rows that a filter keeps are found among what it keeps. -/
theorem filter_filter_of_kept {α : Type} {sought keeps : α → Bool} {rows : List α}
    (kept : ∀ row ∈ rows, sought row → keeps row) :
    (rows.filter keeps).filter sought = rows.filter sought := by
  rw [List.filter_filter]
  refine List.filter_congr fun row among => ?_
  cases found : sought row with
  | false => rfl
  | true => exact kept row among found

/-- What is dropped with one table is nothing of another (`SameTable`). -/
theorem sameTable_withoutTable (valid : TableName.validate table = .ok ())
    (otherValid : TableName.validate other = .ok ()) (apart : other ≠ table) (store : Store)
    (discard : Bool) :
    SameTable other store (store.withoutTokens table) ∧
      SameTable other store (store.withoutTable table discard) := by
  have tokens : store.tokensOf other = (store.withoutTokens table).tokensOf other := by
    refine (filter_filter_of_kept fun entry _ ofOther => ?_).symm
    -- A key of both tables would make the tables one.
    obtain ⟨queryId, names⟩ := of_decide_eq_true ofOther
    refine decide_eq_true fun ⟨otherId, alsoNames⟩ => apart ?_
    exact (TokenKey.ofQuery_inj otherValid valid (names.symm.trans alsoNames)).1
  have copies : store.copiesOf other = (store.withoutTable table discard).copiesOf other := by
    refine (filter_filter_of_kept fun entry _ ofOther => ?_).symm
    rw [eq_of_beq ofOther]
    exact bne_iff_ne.mpr apart
  have operations :
      store.operationsOf other = (store.withoutTable table discard).operationsOf other := by
    cases discard with
    | false => rfl
    | true =>
      refine (filter_filter_of_kept fun operation _ ofOther => ?_).symm
      rw [eq_of_beq ofOther]
      exact bne_iff_ne.mpr apart
  exact ⟨⟨rfl, tokens, rfl⟩, ⟨copies, tokens, operations⟩⟩

/-- The data of tables is kept apart by their names: a token key tells the table and the query
that it is for; to reset a table drops exactly its tokens (`withoutTokens`), to purge it drops its
local copies and tokens and, if they are discarded, its operations in any state (`withoutTable`),
each counted; and all data of any other table stays, as `SameTable` says. -/
theorem tables_kept_apart (valid : TableName.validate table = .ok ()) (store : Store)
    (discard : Bool) :
    (∀ queryId other otherId, TableName.validate other = .ok () →
        TokenKey.ofQuery table queryId = TokenKey.ofQuery other otherId →
        table = other ∧ queryId = otherId) ∧
      store.resetTableWatermarks table =
        ((store.tokensOf table).length, store.withoutTokens table) ∧
      store.purgeTable table discard =
        (⟨(store.copiesOf table).length, if discard then (store.operationsOf table).length else 0,
          (store.tokensOf table).length⟩, store.withoutTable table discard) ∧
      ∀ other, TableName.validate other = .ok () → other ≠ table →
        SameTable other store (store.resetTableWatermarks table).2 ∧
          SameTable other store (store.purgeTable table discard).2 := by
  refine ⟨fun _ _ _ otherValid => TokenKey.ofQuery_inj valid otherValid,
    resetTableWatermarks_eq valid store, purgeTable_eq valid store discard,
    fun other otherValid apart => ?_⟩
  rw [resetTableWatermarks_eq valid, purgeTable_eq valid]
  exact sameTable_withoutTable valid otherValid apart store discard

namespace Neighbours

/-- A local copy without anything in it. -/
def copy : EntityRow := ⟨"\x7b\x7d", none, none⟩

/-- An operation on an entity of a table, in a given state. -/
def removal (table : String) (sequence : Int) (state : OperationState) : Operation :=
  { Operation.ofMutation ⟨.delete, table, "1", "\x7b\x7d", none, none⟩ sequence ⟨0, 0⟩ with state }

/-- A store with data of two tables, one of which has a name that begins like that of the
other. One query has a dot in its name. -/
def store : Store where
  entities := [(⟨"todo", "1"⟩, copy), (⟨"todo_", "1"⟩, copy)]
  queue := [removal "todo" 1 .completed, removal "todo_" 2 .pending, removal "todo" 3 .failed]
  watermarks := [("dt.todo.", 1), ("dt.todo._.all", 2), ("dt.todo_.all", 3)]
  lastSequence := 3

/-- To purge the table with the shorter name leaves the data of the other. -/
theorem tables_kept_apart_neighbours :
    TableName.validate "todo" = .ok () ∧
      store.resetTableWatermarks "todo" = (2, { store with watermarks := [("dt.todo_.all", 3)] }) ∧
      store.purgeTable "todo" true = (⟨1, 2, 2⟩,
        { store with
          entities := [(⟨"todo_", "1"⟩, copy)]
          queue := [removal "todo_" 2 .pending]
          watermarks := [("dt.todo_.all", 3)] }) := by
  have valid : TableName.validate "todo" = .ok () := by decide
  obtain ⟨-, reset, purged, -⟩ := tables_kept_apart valid store true
  exact ⟨valid, reset.trans rfl, purged.trans rfl⟩

end Neighbours

end Store

end OfflineSync
