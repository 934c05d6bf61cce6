import Mathlib.Data.List.DropRight
import Mathlib.Logic.Function.Iterate
import OfflineSync.Proofs.Store.Legibility
import OfflineSync.Proofs.Store.PulledRows
import OfflineSync.Proofs.Store.RaisedWatermarks

/-!
# What a page leaves of each entity

The rows of a page are of many entities, and several may be of one. What is left of an entity is
told by its own rows, `rowsOf`: nothing if the last of them is a tombstone, and otherwise the rows
after the last tombstone, laid over each other and over the earlier copy, unless a tombstone removed
that (`laidOver`). Each row that is laid over a copy is laid over what is read of it, and so a value
is printed and read once for the row that set it and for each later one, as `readings` counts.
-/

namespace OfflineSync

namespace Document

/-- The identity of the entity that a row is of, if its metadata is usable. -/
def entityId? (row : Document) : Option String :=
  (EntityMetadata.ofDocument row).toOption.map EntityMetadata.id

/-- The rows of an entity, by `entityId?`. -/
def rowsOf (id : String) (rows : List Document) : List Document :=
  rows.filter fun row => row.entityId? = some id

/-- The rows behind the last tombstone. -/
def liveRows (rows : List Document) : List Document :=
  rows.rtakeWhile fun row => !EntityMetadata.isTombstone row

/-- Rows laid over a document one after the other, by `overlay`. -/
def laidOver (older : Document) (rows : List Document) : Document :=
  rows.foldl overlay older

/-- How often the value of a field is printed and read while rows are laid over its
document, counted from the last row that has the field. -/
def readings (name : String) (rows : List Document) : Nat :=
  rows.foldl (fun times row => if (row.field? name).isSome then 1 else times + 1) 0

/-- What is read of an entity after a row of it was applied. -/
def applyRow (before : Option Document) (row : Document) : Option Document :=
  if EntityMetadata.isTombstone row then none
  else some ((before.getD .null).overlay row).reprinted

/-- The document that rows are laid over behind the last tombstone: none if there was a tombstone
among them, as `liveRows` leaves the rows before it out. -/
def remainder (before : Option Document) (rows : List Document) : Document :=
  if rows.any EntityMetadata.isTombstone then .null else before.getD .null

/-- What is read of an entity after rows were laid over it: each value has been read as often as
`readings` counts. -/
def rereadOver (older : Document) (rows : List Document) : Document :=
  rows.foldl (fun older row => (older.overlay row).reprinted) older

variable {before : Option Document} {row last older : Document} {rows : List Document}
  {name id : String}

/-! ### Rows of one entity -/

theorem laidOver_concat (older row : Document) (rows : List Document) :
    laidOver older (rows ++ [row]) = (laidOver older rows).overlay row :=
  List.foldl_concat ..

theorem rereadOver_concat (older row : Document) (rows : List Document) :
    rereadOver older (rows ++ [row]) = ((rereadOver older rows).overlay row).reprinted :=
  List.foldl_concat ..

theorem readings_concat (name : String) (row : Document) (rows : List Document) :
    readings name (rows ++ [row]) =
      if (row.field? name).isSome then 1 else readings name rows + 1 :=
  List.foldl_concat ..

/-- Behind a tombstone nothing is left of the rows before it. -/
theorem liveRows_concat_of_tombstone (removes : EntityMetadata.isTombstone row) :
    liveRows (rows ++ [row]) = [] :=
  List.rtakeWhile_concat_neg _ _ _ (by simp [removes])

theorem liveRows_concat_of_live (keeps : ¬ EntityMetadata.isTombstone row) :
    liveRows (rows ++ [row]) = liveRows rows ++ [row] :=
  List.rtakeWhile_concat_pos _ _ _ (by simp [keeps])

/-- The last row decides whether anything is left. -/
theorem foldl_applyRow_eq_none (ends : rows.getLast? = some last) :
    rows.foldl applyRow before = none ↔ EntityMetadata.isTombstone last := by
  obtain ⟨earlier, rfl⟩ := List.getLast?_eq_some_iff.mp ends
  rw [List.foldl_concat, applyRow]
  split <;> simp_all

/-- What is left are the rows behind the last tombstone (`liveRows`), laid over each other and
over what the tombstones have left. -/
theorem getD_foldl_applyRow (before : Option Document) (rows : List Document) :
    (rows.foldl applyRow before).getD .null = rereadOver (remainder before rows) (liveRows rows) := by
  induction rows using List.reverseRecOn with
  | nil => rfl
  | append_singleton rows row inductionHypothesis =>
    rw [List.foldl_concat, applyRow]
    by_cases removes : EntityMetadata.isTombstone row
    · rw [if_pos removes, liveRows_concat_of_tombstone removes, remainder, if_pos (by simp [removes])]
      rfl
    · have same : remainder before (rows ++ [row]) = remainder before rows := by
        simp [remainder, removes]
      rw [if_neg removes, liveRows_concat_of_live removes, same, rereadOver_concat,
        inductionHypothesis, Option.getD_some]

/-! ### Fields -/

/-- Each field that is read has been printed and read as often as counted. -/
theorem field?_rereadOver (objects : ∀ row ∈ rows, row.isObject) (ordered : ∀ row ∈ rows, row.Ascends)
    (older : Document) (name : String) :
    (rereadOver older rows).field? name =
      ((laidOver older rows).field? name).map reprinted^[readings name rows] := by
  induction rows using List.reverseRecOn with
  | nil => simp [rereadOver, laidOver, readings]
  | append_singleton rows row inductionHypothesis =>
    have object : row.isObject := objects row (by simp)
    have ascends : row.Ascends := ordered row (by simp)
    have earlier := inductionHypothesis (fun row among => objects row (by simp [among]))
      (fun row among => ordered row (by simp [among]))
    rw [rereadOver_concat, laidOver_concat, readings_concat, field?_reprinted,
      field?_overlay object ascends, field?_overlay object ascends]
    cases set : row.field? name with
    | some value => rfl
    | none =>
      rw [Option.none_or, Option.none_or, earlier, Option.map_map, ← Function.iterate_succ']
      rfl

/-- Rows that a text may have given leave a document that one may have given: `laidOver` stays
`Readable`. -/
theorem readable_laidOver (olderDenoted : older.Denoted) (denoted : ∀ row ∈ rows, row.Denoted) :
    (laidOver older rows).Denoted ∧ (rereadOver older rows).Denoted := by
  induction rows using List.reverseRecOn with
  | nil => exact ⟨olderDenoted, olderDenoted⟩
  | append_singleton rows row inductionHypothesis =>
    obtain ⟨laid, reread⟩ := inductionHypothesis fun row among => denoted row (by simp [among])
    have given : row.Denoted := denoted row (by simp)
    rw [laidOver_concat, rereadOver_concat]
    exact ⟨laid.overlay given, (reread.overlay given).reprinted⟩

theorem isObject_laidOver (older : Document) (objects : ∀ row ∈ rows, row.isObject)
    (live : rows ≠ []) :
    (laidOver older rows).isObject ∧ (rereadOver older rows).isObject := by
  induction rows using List.reverseRecOn with
  | nil => exact absurd rfl live
  | append_singleton rows row inductionHypothesis =>
    have object : row.isObject := objects row (by simp)
    rw [laidOver_concat, rereadOver_concat, isObject_reprinted]
    exact ⟨isObject_overlay object, isObject_overlay object⟩

/-- What is read is `laidOver` exactly when each value is read as it was given. -/
theorem rereadOver_eq_iff (olderDenoted : older.Denoted) (denoted : ∀ row ∈ rows, row.Denoted)
    (objects : ∀ row ∈ rows, row.isObject) (live : rows ≠ []) :
    rereadOver older rows = laidOver older rows ↔
      ∀ name value, (laidOver older rows).field? name = some value →
        reprinted^[readings name rows] value = value := by
  have fields (name : String) := field?_rereadOver objects
    (fun row among => (denoted row among).ascends) older name
  obtain ⟨laid, reread⟩ := readable_laidOver olderDenoted denoted
  obtain ⟨laidObject, rereadObject⟩ := isObject_laidOver older objects live
  constructor
  · intro same name value found
    have again := fields name
    rw [same, found] at again
    exact (Option.some.inj again).symm
  · intro kept
    refine reread.ascends.ext laid.ascends rereadObject laidObject fun name => ?_
    rw [fields]
    cases found : (laidOver older rows).field? name with
    | none => rfl
    | some value => exact congrArg some (kept name value found)

/-! ### Rows of many entities -/

theorem entityId?_eq_some : row.entityId? = some id ↔ row.IsEntity id := by
  unfold entityId? IsEntity
  cases EntityMetadata.ofDocument row <;> simp [Except.toOption]

theorem rowsOf_concat : rowsOf id (rows ++ [row]) =
    if row.entityId? = some id then rowsOf id rows ++ [row] else rowsOf id rows := by
  rw [rowsOf, List.filter_append, List.filter_singleton]
  split <;> simp_all [rowsOf]

theorem mem_rowsOf : row ∈ rowsOf id rows ↔ row ∈ rows ∧ row.IsEntity id := by
  rw [rowsOf, List.mem_filter, decide_eq_true_iff, entityId?_eq_some]

theorem mem_of_mem_liveRows (among : row ∈ liveRows rows) : row ∈ rows :=
  (List.rtakeWhile_suffix _ _).subset among

end Document

namespace Store

open Document

variable {start store next : Store} {table tokenKey id : String} {row : Document}
  {rows own : List Document} {metadata : EntityMetadata} {outcome : RowOutcome} {key : EntityKey}

/-- What rows of an entity have left of it, one after the other. -/
structure LeftBy (start next : Store) (key : EntityKey) (own : List Document) : Prop where
  untouched : own = [] → next.entity? key = start.entity? key
  read : next.document? key = own.foldl applyRow (start.document? key)
  copies : own ≠ [] → ∀ copy, next.entity? key = some copy → ∃ document, copy.IsCopy document key.id

namespace LeftBy

theorem refl (start : Store) (key : EntityKey) : LeftBy start start key [] :=
  ⟨fun _ => rfl, rfl, fun applied => absurd rfl applied⟩

/-- A row of the entity goes on from what is left. -/
theorem step (left : LeftBy start store ⟨table, metadata.id⟩ own)
    (usable : EntityMetadata.ofDocument row = .ok metadata)
    (takes : TakesRow store table row metadata next) :
    LeftBy start next ⟨table, metadata.id⟩ (own ++ [row]) := by
  obtain ⟨-, -, -, -, -, marked⟩ := EntityMetadata.ofDocument_eq_ok.mp usable
  have applied : own ++ [row] ≠ [] := List.concat_ne_nil _ _
  by_cases removed : metadata.deleted
  · have absent := takes.removes removed
    refine ⟨fun unapplied => absurd unapplied applied, ?_, fun _ copy found => ?_⟩
    · rw [document?_eq_none absent, List.foldl_concat, applyRow, marked, if_pos removed]
    · cases absent.symm.trans found
  · obtain ⟨copy, found, isCopy⟩ := takes.writes removed
    refine ⟨fun unapplied => absurd unapplied applied, ?_, fun _ other again => ?_⟩
    · rw [document?_of_read found isCopy.read_text, List.foldl_concat, ← left.read, applyRow, marked,
        if_neg removed]
    · cases found.symm.trans again
      exact ⟨_, isCopy⟩

/-- A row of another entity leaves the copy. -/
theorem skip (left : LeftBy start store key own)
    (same : next.entity? key = store.entity? key) : LeftBy start next key own := by
  refine ⟨fun unapplied => same.trans (left.untouched unapplied), ?_, fun applied copy found => ?_⟩
  · rw [← left.read, document?, document?, same]
  · exact left.copies applied copy (same.symm.trans found)

end LeftBy

/-- The rows of a page go on from what is left of an entity (`LeftBy`), as far as they are
applied. -/
theorem leftBy_applyPage (store : Store) (table tokenKey id : String)
    (denoted : ∀ row ∈ rows, row.Denoted) :
    LeftBy store (store.applyPage table tokenKey rows).2 ⟨table, id⟩
      (rowsOf id (store.appliedRows table tokenKey rows)) := by
  refine applyPage_induction (motive := fun next done => LeftBy store next ⟨table, id⟩ (rowsOf id done))
    (.refl store ⟨table, id⟩) ?_ ?_
  · intro row _ fault unusable before done left
    have unnamed : row.entityId? = none := by
      rw [entityId?, unusable]
      rfl
    rwa [rowsOf_concat, if_neg (by simp [unnamed])]
  · intro row among metadata usable before outcome after applied done left
    have takes := takesRow_of_applyKnownRow (denoted row among) usable applied
    have named : row.entityId? = some metadata.id := by
      rw [entityId?, usable]
      rfl
    rw [rowsOf_concat, named]
    by_cases same : metadata.id = id
    · subst same
      rw [if_pos rfl]
      exact left.step usable takes
    · rw [if_neg fun equal => same (Option.some.inj equal)]
      refine left.skip (takes.others ⟨table, id⟩ fun equal => ?_)
      exact same (congrArg EntityKey.id equal).symm

/-- The rows of a page leave the local copies of other tables alone. -/
theorem entity?_applyPage_of_ne (store : Store) (tokenKey : String)
    (denoted : ∀ row ∈ rows, row.Denoted) (other : key.table ≠ table) :
    (store.applyPage table tokenKey rows).2.entity? key = store.entity? key := by
  refine applyPage_induction (motive := fun next _ => next.entity? key = store.entity? key) rfl ?_ ?_
  · intro row _ fault unusable before done same
    exact same
  · intro row among metadata usable before outcome after applied done same
    have takes := takesRow_of_applyKnownRow (denoted row among) usable applied
    rw [takes.others key fun equal => other (congrArg EntityKey.table equal), same]

/-! ### The closed form -/

/-- What rows of an entity make of it in the end: nothing changes without rows; a tombstone
at the end removes it; and otherwise it is the rows behind the last tombstone, laid over
each other and over what was read of it before, with each value printed and read as often
as counted. -/
structure Overlays (before after : Store) (key : EntityKey) (own : List Document) : Prop where
  untouched : own = [] → after.entity? key = before.entity? key
  removed : ∀ last, own.getLast? = some last → EntityMetadata.isTombstone last →
    after.entity? key = none
  laid : ∀ last, own.getLast? = some last → ¬ EntityMetadata.isTombstone last →
    let whole := laidOver (remainder (before.document? key) own) (liveRows own)
    ∃ document, after.document? key = some document ∧ document.isObject ∧
      (∀ name, document.field? name =
        (whole.field? name).map reprinted^[readings name (liveRows own)]) ∧
      (document = whole ↔ ∀ name value, whole.field? name = some value →
        reprinted^[readings name (liveRows own)] value = value)

/-- What was read of a copy may have come as a text, as may what no row is laid over. -/
theorem denoted_remainder (before : Store) (key : EntityKey) (own : List Document) :
    (remainder (before.document? key) own).Denoted := by
  unfold remainder
  split
  · exact .null
  · cases held : before.document? key with
    | none => exact .null
    | some older =>
      obtain ⟨copy, -, read⟩ := Option.bind_eq_some_iff.mp held
      exact readable_of_read read

theorem LeftBy.overlays (left : LeftBy start next key own) (denoted : ∀ row ∈ own, row.Denoted)
    (objects : ∀ row ∈ own, row.isObject) : Overlays start next key own := by
  refine ⟨left.untouched, fun last ends removes => ?_, fun last ends keeps => ?_⟩
  · have unread : next.document? key = none :=
      left.read.trans ((foldl_applyRow_eq_none ends).mpr removes)
    have rows : own ≠ [] := by
      rintro rfl
      cases ends
    cases found : next.entity? key with
    | none => rfl
    | some copy =>
      obtain ⟨document, isCopy⟩ := left.copies rows copy found
      cases (document?_of_read found isCopy.read_text).symm.trans unread
  · intro whole
    obtain ⟨document, read⟩ : ∃ document, own.foldl applyRow (start.document? key) = some document :=
      Option.ne_none_iff_exists'.mp fun gone => keeps ((foldl_applyRow_eq_none ends).mp gone)
    have same : document = rereadOver (remainder (start.document? key) own) (liveRows own) := by
      rw [← getD_foldl_applyRow, read, Option.getD_some]
    have live : liveRows own ≠ [] := by
      obtain ⟨earlier, rfl⟩ := List.getLast?_eq_some_iff.mp ends
      rw [liveRows_concat_of_live keeps]
      exact List.concat_ne_nil _ _
    have liveDenoted (row : Document) (among : row ∈ liveRows own) : row.Denoted :=
      denoted row (mem_of_mem_liveRows among)
    have liveObjects (row : Document) (among : row ∈ liveRows own) : row.isObject :=
      objects row (mem_of_mem_liveRows among)
    subst same
    exact ⟨_, left.read.trans read, (isObject_laidOver _ liveObjects live).2,
      field?_rereadOver liveObjects (fun row among => (liveDenoted row among).ascends) _,
      rereadOver_eq_iff (denoted_remainder start key own) liveDenoted liveObjects live⟩

end Store

/-- What a page leaves has a closed form. Its rows are applied from the first on
(`appliedRows`), and all of them unless the store refuses one, which it does not where every
document has come as a text. Each entity is then as its own rows with usable metadata make it
(`Overlays`), and its document is these rows laid over each other and over the earlier copy exactly
when each value is read as it was given, as often as it is read. Other tables, the queue and the
numbering stay. -/
theorem Store.page_overlay_iff {rows : List Document} (denoted : ∀ row ∈ rows, row.Denoted)
    (store : Store) (table tokenKey : String) :
    let applied := store.appliedRows table tokenKey rows
    let after := (store.applyPage table tokenKey rows).2
    applied <+: rows ∧
      ((∃ counts, (store.applyPage table tokenKey rows).1 = .ok counts) ∨ store.Textual →
        applied = rows) ∧
      (∀ id, Overlays store after ⟨table, id⟩ (Document.rowsOf id applied)) ∧
      (∀ key, key.table ≠ table → after.entity? key = store.entity? key) ∧
      after.queue = store.queue ∧ after.lastSequence = store.lastSequence := by
  intro applied after
  have first : applied <+: rows := appliedRows_prefix store table tokenKey rows
  refine ⟨first, fun whole => ?_, fun id => ?_, fun key other => ?_,
    queue_applyPage .., lastSequence_applyPage ..⟩
  · rcases whole with ⟨counts, counted⟩ | textual
    · exact appliedRows_eq counted
    · obtain ⟨⟨counts, counted⟩, -⟩ := textual.legible.applyPage denoted
      exact appliedRows_eq counted
  · refine (leftBy_applyPage store table tokenKey id denoted).overlays (fun row among => ?_)
      fun row among => ?_
    · exact denoted row (first.subset (Document.mem_rowsOf.mp among).1)
    · exact (Document.mem_rowsOf.mp among).2.isObject
  · exact entity?_applyPage_of_ne store tokenKey denoted other

namespace Store.Drift

/-- A row that knows nothing of the number of the entity. -/
def titled : Document := .object [("id", .text "1"), ("title", .text "t")]

/-- A page with the row, a row that is no entity and a tombstone of another entity. -/
def page : List Document :=
  [titled, .null, .object [("deleted", .boolean true), ("id", .text "2")]]

theorem denoted_page : ∀ row ∈ page, row.Denoted := by
  have titleLast : compare "id" "title" = .lt := by decide
  have idLast : compare "deleted" "id" = .lt := by decide
  refine List.forall_mem_cons.mpr ⟨?_, List.forall_mem_cons.mpr ⟨.null,
    List.forall_mem_singleton.mpr ?_⟩⟩
  · refine .object (by decide) (List.pairwise_pair.mpr titleLast) ?_
    exact List.forall_mem_cons.mpr ⟨.text, List.forall_mem_singleton.mpr .text⟩
  · refine .object (by decide) (List.pairwise_pair.mpr idLast) ?_
    exact List.forall_mem_cons.mpr ⟨.boolean, List.forall_mem_singleton.mpr .text⟩

/-- The number of the entity is not in the row, and is read once more. -/
theorem page_overlay_iff_drift :
    (∀ row ∈ page, row.Denoted) ∧ (created operation).Reachable ∧
      (created operation).document? ⟨"todo", "1"⟩ = some (document false) ∧
      ∃ left, ((created operation).applyPage "todo" "dt.todo.all" page).2.document? ⟨"todo", "1"⟩ =
          some left ∧ left ≠ Document.laidOver (document false) [titled] := by
  have textual : (created operation).Textual := .step .empty (.edited recorded_creation)
  have read : (created operation).document? ⟨"todo", "1"⟩ = some (document false) :=
    Option.bind_eq_some_iff.mpr ⟨_, entity?_created _, read_render_document true⟩
  obtain ⟨-, whole, overlays, -⟩ :=
    page_overlay_iff denoted_page (created operation) "todo" "dt.todo.all"
  rw [whole (.inr textual)] at overlays
  have own : Document.rowsOf "1" page = [titled] := rfl
  obtain ⟨left, held, -, -, exactly⟩ := (overlays "1").laid titled (by rw [own]; rfl) (by decide)
  rw [own, read] at exactly
  refine ⟨denoted_page, reachable_created, read, left, held, fun same => ?_⟩
  have kept := exactly.mp same "x" (.number (.float (number false))) rfl
  have once : Document.readings "x" (Document.liveRows [titled]) = 1 := rfl
  simp only [once, Function.iterate_one, Document.reprinted, Number.reprinted, reread_number,
    Document.number.injEq, Number.float.injEq] at kept
  revert kept
  decide

end Store.Drift

end OfflineSync
