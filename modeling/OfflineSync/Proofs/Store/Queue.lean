import OfflineSync.Proofs.Fallible
import OfflineSync.Proofs.KeyedList
import OfflineSync.Proofs.Outbox.Identity
import OfflineSync.Store.Queue

/-!
# A sound queue

In a sound queue, `QueueSound`, the operations stand in the order of their numbers, each is named
after its number, no number is ahead of the counter, and no entity has two open operations. A sound
queue is therefore searched without ambiguity: an identity finds one operation, and an entity finds
its open one, `QueueSound.openOperation?_eq_some`.

Every change of a queue is an appended operation, an updated one or a selection of those present,
and each of the three keeps the queue sound.
-/

namespace OfflineSync

namespace Operation

/-- Whether two operations belong to one entity. -/
def SameEntity (left right : Operation) : Prop :=
  left.table = right.table ∧ left.itemId = right.itemId

/-- What no change of a queued operation touches. -/
structure SameRow (before after : Operation) : Prop where
  id : after.id = before.id
  table : after.table = before.table
  itemId : after.itemId = before.itemId
  text : after.before = before.before
  sequence : after.sequence = before.sequence
  createdAt : after.createdAt = before.createdAt

theorem SameRow.refl (operation : Operation) : SameRow operation operation :=
  ⟨rfl, rfl, rfl, rfl, rfl, rfl⟩

/-- Changes of one row compose. -/
theorem SameRow.trans {before middle after : Operation} (first : SameRow before middle)
    (second : SameRow middle after) : SameRow before after where
  id := second.id.trans first.id
  table := second.table.trans first.table
  itemId := second.itemId.trans first.itemId
  text := second.text.trans first.text
  sequence := second.sequence.trans first.sequence
  createdAt := second.createdAt.trans first.createdAt

/-- Whether an operation differs from a queued one in nothing but what merging and
rebasing change. -/
def Revises (operation present : Operation) : Prop :=
  { present with
    kind := operation.kind
    state := operation.state
    payload := operation.payload
    entityVersion := operation.entityVersion
    revision := operation.revision } = operation

/-- An operation that `Revises` another is in its row. -/
theorem Revises.sameRow {operation present : Operation} (revises : operation.Revises present) :
    SameRow present operation := by
  rw [← revises]
  exact ⟨rfl, rfl, rfl, rfl, rfl, rfl⟩

/-- A revised operation is for the entities that the one it revises is for. -/
theorem Revises.isFor_eq {operation present : Operation} (revises : operation.Revises present)
    (table itemId : String) : operation.isFor table itemId = present.isFor table itemId := by
  rw [isFor, isFor, revises.sameRow.table, revises.sameRow.itemId]

theorem isFor_iff {operation : Operation} {table itemId : String} :
    operation.isFor table itemId ↔ operation.table = table ∧ operation.itemId = itemId := by
  simp [isFor]

/-- Two operations that are for one entity belong to the same entity. -/
theorem SameEntity.of_isFor {left right : Operation} {table itemId : String}
    (leftFor : left.isFor table itemId) (rightFor : right.isFor table itemId) :
    SameEntity left right := by
  rw [isFor_iff] at leftFor rightFor
  exact ⟨leftFor.1.trans rightFor.1.symm, leftFor.2.trans rightFor.2.symm⟩

end Operation

namespace Store

/-- A queue in order, without reused identities, and with at most one open
operation of each entity. -/
structure QueueSound (store : Store) : Prop where
  counted : 0 ≤ store.lastSequence
  named : ∀ operation ∈ store.queue, operation.id = Operation.idOfSequence operation.sequence
  numbered : ∀ operation ∈ store.queue,
    0 < operation.sequence ∧ operation.sequence ≤ store.lastSequence
  ascending : store.queue.Pairwise fun earlier later => earlier.sequence < later.sequence
  apart : store.queue.Pairwise fun earlier later =>
    earlier.isOpen → later.isOpen → ¬ Operation.SameEntity earlier later

theorem queueSound_empty : empty.QueueSound where
  counted := Int.le_refl 0
  named := by simp [empty]
  numbered := by simp [empty]
  ascending := List.Pairwise.nil
  apart := List.Pairwise.nil

namespace QueueSound

variable {store : Store} {left right operation : Operation} {table itemId id : String}

/-- Operations of one number are one operation, as the numbers of a `QueueSound` store ascend. -/
theorem eq_of_sequence (sound : store.QueueSound) (leftQueued : left ∈ store.queue)
    (rightQueued : right ∈ store.queue) (same : left.sequence = right.sequence) : left = right := by
  have apart : ∀ l ∈ store.queue, ∀ r ∈ store.queue, l.sequence = r.sequence → l = r :=
    List.Pairwise.forall_of_forall_of_flip (fun _ _ _ => rfl)
      (sound.ascending.imp fun lower equal => absurd equal (Int.ne_of_lt lower))
      (sound.ascending.imp fun lower equal => absurd equal.symm (Int.ne_of_lt lower))
  exact apart left leftQueued right rightQueued same

/-- Operations of one identity are one operation. -/
theorem eq_of_id (sound : store.QueueSound) (leftQueued : left ∈ store.queue)
    (rightQueued : right ∈ store.queue) (same : left.id = right.id) : left = right := by
  refine sound.eq_of_sequence leftQueued rightQueued ?_
  rw [sound.named left leftQueued, sound.named right rightQueued] at same
  have leftNumber := (sound.numbered left leftQueued).1
  have rightNumber := (sound.numbered right rightQueued).1
  exact Operation.idOfSequence_injective (by omega) (by omega) same

/-- Open operations of one entity are one operation (`SameEntity`). -/
theorem eq_of_open (sound : store.QueueSound) (leftQueued : left ∈ store.queue)
    (rightQueued : right ∈ store.queue) (leftOpen : left.isOpen) (rightOpen : right.isOpen)
    (same : Operation.SameEntity left right) : left = right := by
  have apart : ∀ l ∈ store.queue, ∀ r ∈ store.queue,
      l.isOpen → r.isOpen → Operation.SameEntity l r → l = r :=
    List.Pairwise.forall_of_forall_of_flip (fun _ _ _ _ _ => rfl)
      (sound.apart.imp fun differ leftOpen rightOpen same => absurd same (differ leftOpen rightOpen))
      (sound.apart.imp fun differ leftOpen rightOpen same =>
        absurd ⟨same.1.symm, same.2.symm⟩ (differ rightOpen leftOpen))
  exact apart left leftQueued right rightQueued leftOpen rightOpen same

end QueueSound

variable {store : Store} {operation present : Operation} {table itemId id : String}

/-- An identity finds, by `operation?`, an operation that is queued under it. -/
theorem mem_of_operation? (found : store.operation? id = some operation) :
    operation ∈ store.queue ∧ operation.id = id :=
  ⟨List.mem_of_find?_eq_some found, by simpa using List.find?_some found⟩

/-- An identity finds nothing exactly when no operation is queued under it. -/
theorem operation?_eq_none :
    store.operation? id = none ↔ ∀ operation ∈ store.queue, operation.id ≠ id := by
  simp [operation?]

/-- An identity finds the operation that is queued under it. -/
theorem QueueSound.operation?_eq_some (sound : store.QueueSound) :
    store.operation? id = some operation ↔ operation ∈ store.queue ∧ operation.id = id := by
  constructor
  · exact mem_of_operation?
  · rintro ⟨queued, rfl⟩
    cases found : store.operation? operation.id with
    | none => exact absurd rfl (operation?_eq_none.mp found operation queued)
    | some other =>
      obtain ⟨otherQueued, same⟩ := mem_of_operation? found
      rw [sound.eq_of_id otherQueued queued same]

/-- An entity finds, by `openOperation?`, an operation of its own that is open. -/
theorem mem_of_openOperation? (found : store.openOperation? table itemId = some operation) :
    operation ∈ store.queue ∧ operation.isFor table itemId ∧ operation.isOpen := by
  have wanted := List.find?_some found
  simp only [Bool.and_eq_true] at wanted
  exact ⟨List.mem_of_find?_eq_some found, wanted.1, wanted.2⟩

/-- An operation that `listOpen` lists is queued and open. -/
theorem mem_of_listOpen {tables : List String} (listed : operation ∈ store.listOpen tables) :
    operation ∈ store.queue ∧ operation.isOpen := by
  obtain ⟨member, chosen⟩ := List.mem_filter.mp listed
  rw [Bool.and_eq_true] at chosen
  exact ⟨member, chosen.1⟩

/-- No operation is queued twice. -/
theorem QueueSound.nodup_queue (sound : store.QueueSound) : store.queue.Nodup :=
  sound.ascending.imp fun lower same => Int.ne_of_lt lower (congrArg Operation.sequence same)

/-- No operation is listed twice. -/
theorem QueueSound.nodup_listOpen (sound : store.QueueSound) {tables : List String} :
    (store.listOpen tables).Nodup :=
  sound.nodup_queue.filter _

/-- Where no table of a call has open operations, by `tablesWithOpen`, none are listed. -/
theorem listOpen_of_tablesWithOpen {tables : List String}
    (clean : store.tablesWithOpen tables = []) : store.listOpen tables = [] :=
  List.map_eq_nil_iff.mp (KeyedList.ofList_eq_nil (List.map_eq_nil_iff.mp clean))

/-- An entity finds nothing exactly when it has no open operation. -/
theorem openOperation?_eq_none :
    store.openOperation? table itemId = none ↔
      ∀ operation ∈ store.queue, operation.isFor table itemId → ¬ operation.isOpen := by
  simp [openOperation?]

/-- An entity finds its open operation. -/
theorem QueueSound.openOperation?_eq_some (sound : store.QueueSound) :
    store.openOperation? table itemId = some operation ↔
      operation ∈ store.queue ∧ operation.isFor table itemId ∧ operation.isOpen := by
  constructor
  · exact mem_of_openOperation?
  · rintro ⟨queued, belongs, isOpen⟩
    cases found : store.openOperation? table itemId with
    | none => exact absurd isOpen (openOperation?_eq_none.mp found operation queued belongs)
    | some other =>
      obtain ⟨otherQueued, otherBelongs, otherOpen⟩ := mem_of_openOperation? found
      rw [sound.eq_of_open otherQueued queued otherOpen isOpen (.of_isFor otherBelongs belongs)]

/-! ### Appended operations -/

/-- An operation with the next number may be appended by `appendOperation` for an entity that has
no open one. -/
theorem QueueSound.appendOperation (sound : store.QueueSound)
    (next : operation.sequence = store.lastSequence + 1)
    (named : operation.id = Operation.idOfSequence operation.sequence)
    (free : store.openOperation? operation.table operation.itemId = none) :
    (store.appendOperation operation).QueueSound where
  counted := by
    have counted := sound.counted
    simp only [Store.appendOperation]
    omega
  named := by
    intro other queued
    rcases List.mem_append.mp queued with old | new
    · exact sound.named other old
    · cases List.mem_singleton.mp new
      exact named
  numbered := by
    have counted := sound.counted
    intro other queued
    simp only [Store.appendOperation] at queued ⊢
    rcases List.mem_append.mp queued with old | new
    · have bounds := sound.numbered other old
      omega
    · cases List.mem_singleton.mp new
      omega
  ascending := by
    refine List.pairwise_append.mpr ⟨sound.ascending, List.pairwise_singleton _ _, ?_⟩
    intro other queued appended member
    cases List.mem_singleton.mp member
    have bounds := sound.numbered other queued
    omega
  apart := by
    refine List.pairwise_append.mpr ⟨sound.apart, List.pairwise_singleton _ _, ?_⟩
    intro other queued appended member otherOpen _ same
    cases List.mem_singleton.mp member
    exact openOperation?_eq_none.mp free other queued (Operation.isFor_iff.mpr same) otherOpen

/-- An appended operation with a new number is found under its identity. -/
theorem operation?_appendOperation (fresh : store.operation? operation.id = none) :
    (store.appendOperation operation).operation? id =
      if id = operation.id then some operation else store.operation? id := by
  unfold operation? at fresh ⊢
  by_cases same : id = operation.id
  · subst same
    simp [appendOperation, List.find?_append, fresh]
  · have differs : operation.id ≠ id := fun equal => same equal.symm
    simp [appendOperation, List.find?_append, differs, same]

/-- The next number names no operation yet. -/
theorem QueueSound.fresh (sound : store.QueueSound)
    (next : operation.sequence = store.lastSequence + 1)
    (named : operation.id = Operation.idOfSequence operation.sequence) :
    store.operation? operation.id = none := by
  have counted := sound.counted
  refine operation?_eq_none.mpr fun other queued same => ?_
  have bounds := sound.numbered other queued
  rw [named, sound.named other queued] at same
  have equal := Operation.idOfSequence_injective (by omega) (by omega) same
  omega

/-- An appended open operation is the open operation of its entity. -/
theorem openOperation?_appendOperation (isOpen : operation.isOpen)
    (free : store.openOperation? operation.table operation.itemId = none) :
    (store.appendOperation operation).openOperation? table itemId =
      if operation.isFor table itemId then some operation else store.openOperation? table itemId := by
  unfold openOperation? at free ⊢
  by_cases belongs : operation.isFor table itemId
  · obtain ⟨rfl, rfl⟩ := Operation.isFor_iff.mp belongs
    simp [appendOperation, List.find?_append, free, belongs, isOpen]
  · simp [appendOperation, List.find?_append, belongs]

/-! ### Rivals -/

theorem hasOpenRival_iff : store.hasOpenRival operation ↔
    ∃ other ∈ store.queue, other.id ≠ operation.id ∧ other.SameEntity operation ∧ other.isOpen := by
  simp [hasOpenRival, Operation.isFor_iff, Operation.SameEntity, and_assoc]

/-- Another open operation of the entity is a rival (`hasOpenRival_iff`). -/
theorem QueueSound.hasOpenRival (sound : store.QueueSound) {rival : Operation}
    (queued : operation ∈ store.queue) (rivalQueued : rival ∈ store.queue)
    (differ : rival.sequence ≠ operation.sequence) (same : rival.SameEntity operation)
    (isOpen : rival.isOpen) : store.hasOpenRival operation := by
  have ids : rival.id ≠ operation.id := fun equal =>
    differ (congrArg Operation.sequence (sound.eq_of_id rivalQueued queued equal))
  exact hasOpenRival_iff.mpr ⟨rival, rivalQueued, ids, same, isOpen⟩

/-- An open operation has no rival. -/
theorem QueueSound.not_hasOpenRival (sound : store.QueueSound) (queued : operation ∈ store.queue)
    (isOpen : operation.isOpen) : ¬ store.hasOpenRival operation := by
  intro rival
  obtain ⟨other, otherQueued, differs, same, otherOpen⟩ := hasOpenRival_iff.mp rival
  exact differs (congrArg Operation.id (sound.eq_of_open otherQueued queued otherOpen isOpen same))

/-! ### Updated operations -/

section Update

variable {change : Operation → Operation}

/-- The operations of a queue after `updateOperation` are the images of those before. -/
theorem mem_updateOperation :
    operation ∈ (store.updateOperation id change).queue ↔
      ∃ present ∈ store.queue, (if present.id == id then change present else present) = operation := by
  simp [updateOperation]

/-- An update that leaves each row its identity may change anything else of an
operation, provided that it opens none beside another open one. -/
theorem QueueSound.updateOperation (sound : store.QueueSound)
    (keeps : ∀ present ∈ store.queue, present.id = id → Operation.SameRow present (change present))
    (opens : ∀ present ∈ store.queue, present.id = id → (change present).isOpen →
      present.isOpen ∨ ¬ store.hasOpenRival present) :
    (store.updateOperation id change).QueueSound := by
  have same : ∀ present ∈ store.queue,
      Operation.SameRow present (if present.id == id then change present else present) := by
    intro present queued
    by_cases found : present.id = id
    · simpa [found] using keeps present queued found
    · simpa [found] using Operation.SameRow.refl present
  have opened : ∀ present ∈ store.queue,
      (if present.id == id then change present else present).isOpen →
        present.isOpen ∨ present.id = id ∧ ¬ store.hasOpenRival present := by
    intro present queued isOpen
    by_cases found : present.id = id
    · exact (opens present queued found (by simpa [found] using isOpen)).imp_right fun alone =>
        ⟨found, alone⟩
    · exact .inl (by simpa [found] using isOpen)
  constructor
  · exact sound.counted
  · intro operation queued
    obtain ⟨present, presentQueued, rfl⟩ := mem_updateOperation.mp queued
    rw [(same present presentQueued).id, (same present presentQueued).sequence]
    exact sound.named present presentQueued
  · intro operation queued
    obtain ⟨present, presentQueued, rfl⟩ := mem_updateOperation.mp queued
    rw [(same present presentQueued).sequence]
    exact sound.numbered present presentQueued
  · refine List.pairwise_map.mpr (sound.ascending.imp_of_mem ?_)
    intro left right leftQueued rightQueued lower
    rw [(same left leftQueued).sequence, (same right rightQueued).sequence]
    exact lower
  · refine List.pairwise_map.mpr ((sound.ascending.and sound.apart).imp_of_mem ?_)
    intro left right leftQueued rightQueued relations leftOpen rightOpen entity
    obtain ⟨lower, differ⟩ := relations
    rw [Operation.SameEntity, (same left leftQueued).table, (same left leftQueued).itemId,
      (same right rightQueued).table, (same right rightQueued).itemId] at entity
    have backward : Operation.SameEntity right left := ⟨entity.1.symm, entity.2.symm⟩
    -- An operation that was closed has no rival, so a pair can only be open on both
    -- sides afterwards where it was open on both sides before.
    rcases opened left leftQueued leftOpen with leftWas | ⟨leftFound, leftAlone⟩
    · rcases opened right rightQueued rightOpen with rightWas | ⟨-, rightAlone⟩
      · exact differ leftWas rightWas entity
      · exact rightAlone (sound.hasOpenRival rightQueued leftQueued (by omega) entity leftWas)
    · rcases opened right rightQueued rightOpen with rightWas | ⟨rightFound, -⟩
      · exact leftAlone (sound.hasOpenRival leftQueued rightQueued (by omega) backward rightWas)
      · have equal := sound.eq_of_id leftQueued rightQueued (leftFound.trans rightFound.symm)
        rw [equal] at lower
        omega

end Update

/-- The operations of a queue after `replaceOperation` are the revised one and all others. -/
theorem QueueSound.mem_replaceOperation (sound : store.QueueSound) (queued : present ∈ store.queue)
    (revises : operation.Revises present) {other : Operation} :
    other ∈ (store.replaceOperation operation).queue ↔
      other = operation ∨ other ∈ store.queue ∧ other.id ≠ operation.id := by
  have same := revises.sameRow.id
  simp only [replaceOperation, mem_updateOperation]
  constructor
  · rintro ⟨before, beforeQueued, rfl⟩
    by_cases found : before.id = operation.id
    · cases sound.eq_of_id beforeQueued queued (found.trans same)
      exact .inl (by rw [beq_iff_eq.mpr found, if_pos rfl]; exact revises)
    · simpa [found] using Or.inr (a := before = operation) beforeQueued
  · rintro (rfl | ⟨otherQueued, differs⟩)
    · exact ⟨present, queued, by rw [beq_iff_eq.mpr same.symm, if_pos rfl]; exact revises⟩
    · exact ⟨other, otherQueued, by simp [differs]⟩

/-- A revision (`Revises`) that opens no closed operation keeps the queue sound. -/
theorem QueueSound.replaceOperation (sound : store.QueueSound) (queued : present ∈ store.queue)
    (revises : operation.Revises present) (opens : operation.isOpen → present.isOpen) :
    (store.replaceOperation operation).QueueSound := by
  have same := revises.sameRow.id
  refine sound.updateOperation (fun _ _ _ => ⟨rfl, rfl, rfl, rfl, rfl, rfl⟩) ?_
  intro other otherQueued found isOpen
  cases sound.eq_of_id otherQueued queued (found.trans same)
  exact .inl (opens isOpen)

/-- A revised operation is found under its identity, and every other as before. -/
theorem QueueSound.operation?_replaceOperation (sound : store.QueueSound)
    (queued : present ∈ store.queue) (revises : operation.Revises present)
    (opens : operation.isOpen → present.isOpen) :
    (store.replaceOperation operation).operation? id =
      if id = operation.id then some operation else store.operation? id := by
  have after := sound.replaceOperation queued revises opens
  ext found
  rw [after.operation?_eq_some, sound.mem_replaceOperation queued revises]
  by_cases same : id = operation.id
  · subst same
    rw [if_pos rfl, Option.some.injEq]
    constructor
    · rintro ⟨rfl | ⟨-, differs⟩, named⟩
      · rfl
      · exact absurd named differs
    · rintro rfl
      exact ⟨.inl rfl, rfl⟩
  · rw [if_neg same, sound.operation?_eq_some]
    constructor
    · rintro ⟨rfl | ⟨foundQueued, -⟩, named⟩
      · exact absurd named.symm same
      · exact ⟨foundQueued, named⟩
    · rintro ⟨foundQueued, named⟩
      exact ⟨.inr ⟨foundQueued, fun equal => same (named.symm.trans equal)⟩, named⟩

/-- A revised open operation is the open operation of its entity. -/
theorem QueueSound.openOperation?_replaceOperation (sound : store.QueueSound)
    (queued : present ∈ store.queue) (revises : operation.Revises present)
    (wasOpen : present.isOpen) (isOpen : operation.isOpen) :
    (store.replaceOperation operation).openOperation? table itemId =
      if operation.isFor table itemId then some operation else store.openOperation? table itemId := by
  have after := sound.replaceOperation queued revises fun _ => wasOpen
  have belongs := revises.isFor_eq table itemId
  ext found
  rw [after.openOperation?_eq_some, sound.mem_replaceOperation queued revises]
  by_cases same : operation.isFor table itemId
  · rw [if_pos same, Option.some.injEq]
    constructor
    · rintro ⟨rfl | ⟨foundQueued, differs⟩, foundFor, foundOpen⟩
      · rfl
      · cases sound.eq_of_open foundQueued queued foundOpen wasOpen
          (.of_isFor foundFor (belongs ▸ same))
        exact absurd revises.sameRow.id.symm differs
    · rintro rfl
      exact ⟨.inl rfl, same, isOpen⟩
  · rw [if_neg same, sound.openOperation?_eq_some]
    constructor
    · rintro ⟨rfl | ⟨foundQueued, -⟩, foundFor, foundOpen⟩
      · exact absurd foundFor same
      · exact ⟨foundQueued, foundFor, foundOpen⟩
    · rintro ⟨foundQueued, foundFor, foundOpen⟩
      refine ⟨.inr ⟨foundQueued, fun equal => same ?_⟩, foundFor, foundOpen⟩
      cases sound.eq_of_id foundQueued queued (equal.trans revises.sameRow.id)
      exact belongs ▸ foundFor

/-! ### Selected operations -/

/-- A selection of a sound queue is sound, as `removeOperation` and `purgeCompleted` make it. -/
theorem QueueSound.of_sublist {after : Store} (sound : store.QueueSound)
    (selected : after.queue.Sublist store.queue) (counter : after.lastSequence = store.lastSequence) :
    after.QueueSound where
  counted := counter ▸ sound.counted
  named := fun operation queued => sound.named operation (selected.subset queued)
  numbered := fun operation queued => counter ▸ sound.numbered operation (selected.subset queued)
  ascending := sound.ascending.sublist selected
  apart := sound.apart.sublist selected

theorem QueueSound.removeOperation (sound : store.QueueSound) (id : String) :
    (store.removeOperation id).QueueSound :=
  sound.of_sublist List.filter_sublist rfl

theorem mem_removeOperation :
    operation ∈ (store.removeOperation id).queue ↔ operation ∈ store.queue ∧ operation.id ≠ id := by
  simp [removeOperation]

/-- A removed operation is not found, and every other as before. -/
theorem QueueSound.operation?_removeOperation (sound : store.QueueSound) {other : String} :
    (store.removeOperation id).operation? other =
      if other = id then none else store.operation? other := by
  ext found
  rw [(sound.removeOperation id).operation?_eq_some, mem_removeOperation]
  by_cases same : other = id
  · subst same
    simp
  · rw [if_neg same, sound.operation?_eq_some]
    constructor
    · rintro ⟨⟨foundQueued, -⟩, named⟩
      exact ⟨foundQueued, named⟩
    · rintro ⟨foundQueued, named⟩
      exact ⟨⟨foundQueued, fun equal => same (named.symm.trans equal)⟩, named⟩

/-- The entity of a removed open operation has no open operation, and every other
entity has the one it had. -/
theorem QueueSound.openOperation?_removeOperation (sound : store.QueueSound)
    (queued : present ∈ store.queue) (isOpen : present.isOpen) :
    (store.removeOperation present.id).openOperation? table itemId =
      if present.isFor table itemId then none else store.openOperation? table itemId := by
  by_cases belongs : present.isFor table itemId
  · rw [if_pos belongs]
    refine openOperation?_eq_none.mpr fun other remaining otherFor otherOpen => ?_
    obtain ⟨otherQueued, differs⟩ := mem_removeOperation.mp remaining
    exact differs (congrArg Operation.id
      (sound.eq_of_open otherQueued queued otherOpen isOpen (.of_isFor otherFor belongs)))
  · rw [if_neg belongs]
    ext found
    rw [(sound.removeOperation present.id).openOperation?_eq_some, mem_removeOperation,
      sound.openOperation?_eq_some]
    constructor
    · rintro ⟨⟨foundQueued, -⟩, foundFor, foundOpen⟩
      exact ⟨foundQueued, foundFor, foundOpen⟩
    · rintro ⟨foundQueued, foundFor, foundOpen⟩
      refine ⟨⟨foundQueued, fun equal => belongs ?_⟩, foundFor, foundOpen⟩
      exact sound.eq_of_id foundQueued queued equal ▸ foundFor

end Store

end OfflineSync
