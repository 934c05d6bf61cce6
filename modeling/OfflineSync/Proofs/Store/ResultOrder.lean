import OfflineSync.Proofs.Store.Copies
import OfflineSync.Proofs.Store.Effects

/-!
# The order of push results

Workers push side by side, so results arrive in any order, each an `Arrival`. What a result does to
an operation that is still queued is decided by its row and the copy of its entity, and changes that
row and one copy. Results that reach no copy in common are therefore decided as if each came first
(`Planned`), and what they do commutes, `View.enact_comm`.
-/

namespace OfflineSync

/-- An operation without the moment at which it was last attempted. -/
def Operation.untimed (operation : Operation) : Operation :=
  { operation with lastAttempt := none }

/-- The moment of an attempt is all that a change takes from the clock. -/
theorem RowChange.map_untimed_under (change : RowChange) (id : String)
    (attempted : Option Instant) (row : Operation) :
    (change.under id attempted row).map Operation.untimed = change.under id none row.untimed := by
  unfold under
  change _ = if row.id = id then _ else _
  split
  · cases change <;> rfl
  · rfl

/-- Changes under different identities commute. -/
theorem RowChange.bind_under {change later : RowChange} {id other : String} (ids : id ≠ other)
    (row : Operation) :
    (change.under id none row).bind (later.under other none) =
      (later.under other none row).bind (change.under id none) := by
  by_cases own : row.id = id
  · have apart : row.id ≠ other := own ▸ ids
    rw [Store.under_of_ne apart, Option.bind_some]
    cases changed : change.under id none row with
    | none => rfl
    | some revised => exact Store.under_of_ne ((Store.keyOf_of_under changed).1 ▸ apart)
  · rw [Store.under_of_ne own, Option.bind_some]
    cases changed : later.under other none row with
    | none => rfl
    | some revised => exact (Store.under_of_ne ((Store.keyOf_of_under changed).1 ▸ own)).symm

namespace Store

/-- A result, with the operation that was sent. -/
structure Arrival where
  sent : Operation
  outcome : Outcome

/-- Writes results one after the other, each at a moment of its own. A result that is
refused changes nothing. Every result is listed with the answer to it. -/
def acceptAll (store : Store) :
    List (Arrival × Instant) → List (Arrival × Except StoreError Receipt) × Store
  | [] => ([], store)
  | (arrival, now) :: rest =>
    match store.accept arrival.sent arrival.outcome now with
    | .ok (receipt, next) =>
      let (answers, last) := next.acceptAll rest
      ((arrival, .ok receipt) :: answers, last)
    | .error fault =>
      let (answers, last) := store.acceptAll rest
      ((arrival, .error fault) :: answers, last)

/-- Whether a result is awaited: the operation was listed, is still queued under its
identity, and an entity that comes with the result is the one sent. -/
structure Awaited (store : Store) (arrival : Arrival) : Prop where
  listed : ∃ before tables, Reachable before ∧ arrival.sent ∈ before.listOpen tables ∧
    Relation.ReflTransGen Step before store
  queued : (store.operation? arrival.sent.id).isSome
  answers : arrival.outcome.Answers arrival.sent

/-- Whether two stores are the same, apart from the moments of attempts. -/
structure SameUpToTimes (left right : Store) : Prop where
  entities : left.entities = right.entities
  queue : left.queue.map Operation.untimed = right.queue.map Operation.untimed
  watermarks : left.watermarks = right.watermarks
  lastSequence : left.lastSequence = right.lastSequence

/-! ### Effects commute -/

/-- What lookups find of the local copies, and the operations without their moments. -/
structure View where
  copies : EntityKey → Option EntityRow
  rows : List Operation

/-- The view of a store. -/
def view (store : Store) : View := ⟨store.entity?, store.queue.map Operation.untimed⟩

/-- Carries out an effect on a view. -/
def View.carry (view : View) (id : String) (effect : Effect) : View where
  copies := match effect.copy with
    | none => view.copies
    | some change => Function.update view.copies change.key change.row
  rows := view.rows.filterMap (effect.row.under id none)

/-- Carries out what was decided on a view. -/
def View.enact (view : View) (id : String) : Except StoreError Effect → View
  | .ok effect => view.carry id effect
  | .error _ => view

section Effects

variable {store : Store} {view : View} {id other : String} {effect later : Effect}
  {attempted : Option Instant}

/-- The view of a store is changed as the store is. -/
@[simp] theorem view_carry :
    (store.carry id attempted effect).view = store.view.carry id effect := by
  have rows : (store.carry id attempted effect).queue.map Operation.untimed =
      (store.queue.map Operation.untimed).filterMap (effect.row.under id none) := by
    unfold carry
    rw [List.map_filterMap, List.filterMap_map]
    exact List.filterMap_congr fun row queued => effect.row.map_untimed_under id attempted row
  have copies : (store.carry id attempted effect).entity? = (store.view.carry id effect).copies := by
    obtain ⟨receipt, row, copy⟩ := effect
    funext key
    obtain _ | ⟨written, _ | placed⟩ := copy
    · rfl
    · refine (entity?_removeEntity store written key).trans ?_
      simp [View.carry, view, Function.update_apply, eq_comm]
    · refine (KeyedList.get?_insert written key placed store.entities).trans ?_
      simp [View.carry, view, Function.update_apply, eq_comm, entity?]
  exact congrArg₂ View.mk copies rows

/-- Effects on different rows and different copies commute. -/
theorem View.carry_comm (ids : id ≠ other)
    (keys : ∀ first second, effect.copy = some first → later.copy = some second →
      first.key ≠ second.key) :
    (view.carry id effect).carry other later = (view.carry other later).carry id effect := by
  have rows : (view.rows.filterMap (effect.row.under id none)).filterMap (later.row.under other none) =
      (view.rows.filterMap (later.row.under other none)).filterMap (effect.row.under id none) := by
    rw [List.filterMap_filterMap, List.filterMap_filterMap]
    exact List.filterMap_congr fun row queued => RowChange.bind_under ids row
  obtain ⟨receipt, row, copy⟩ := effect
  obtain ⟨laterReceipt, laterRow, laterCopy⟩ := later
  cases copy with
  | none => exact congrArg (View.mk _) rows
  | some first =>
    cases laterCopy with
    | none => exact congrArg (View.mk _) rows
    | some second =>
      exact congrArg₂ View.mk (Function.update_comm (keys first second rfl rfl) _ _ _) rows

/-- Decisions about different rows and different copies commute. -/
theorem View.enact_comm {first second : Except StoreError Effect} (ids : id ≠ other)
    (keys : ∀ effect later one two, first = .ok effect → second = .ok later →
      effect.copy = some one → later.copy = some two → one.key ≠ two.key) :
    (view.enact id first).enact other second = (view.enact other second).enact id first := by
  cases first with
  | error fault => rfl
  | ok effect =>
    cases second with
    | error fault => rfl
    | ok later => exact carry_comm ids fun one two => keys effect later one two rfl rfl

end Effects

/-! ### Results that are awaited -/

/-- Whether a store comes to a decision about a result: the operation is queued, under an
identity that its entity alone has. -/
structure Decides (store : Store) (arrival : Arrival) (decided : Except StoreError Effect) :
    Prop where
  own : store.FindsOwn arrival.sent
  found : ∃ current, store.operation? arrival.sent.id = some current ∧
    deciding arrival.sent arrival.outcome current (store.hasOpenRival current)
      (store.entity? (keyOf arrival.sent)) = decided

section Decisions

variable {store : Store} {arrival other : Arrival} {decided later : Except StoreError Effect}
  {effect : Effect} {attempted : Option Instant} {now : Instant}

/-- What is queued under the identity sent is of the entity sent (`FindsOwn`). -/
theorem FindsOwn.keyOf_eq {sent row : Operation} (own : store.FindsOwn sent)
    (queued : row ∈ store.queue) (named : row.id = sent.id) : keyOf row = keyOf sent :=
  isFor_iff_keyOf.mp (own row queued named)

/-- Operations of different entities are under different identities. -/
theorem Decides.id_ne (one : store.Decides arrival decided) (two : store.Decides other later)
    (differs : keyOf arrival.sent ≠ keyOf other.sent) : arrival.sent.id ≠ other.sent.id := by
  intro same
  obtain ⟨current, found, -⟩ := one.found
  obtain ⟨queued, named⟩ := mem_of_operation? found
  have key := one.own.keyOf_eq queued named
  exact differs (key.symm.trans (two.own.keyOf_eq queued (named.trans same)))

/-- A result is written as it was decided: `accept` is `enact`. -/
theorem Decides.accept_eq (decides : store.Decides arrival decided)
    (answers : arrival.outcome.Answers arrival.sent) (now : Instant) :
    store.accept arrival.sent arrival.outcome now = store.enact arrival.sent.id now decided := by
  obtain ⟨current, found, rfl⟩ := decides.found
  obtain ⟨queued, named⟩ := mem_of_operation? found
  exact accept_eq_map found (decides.own.keyOf_eq queued named) fun document given =>
    (answers document given).2

/-- What is decided is written where the result reaches. -/
theorem Decides.reaches {change : CopyChange} (decides : store.Decides arrival (.ok effect))
    (answers : arrival.outcome.Answers arrival.sent) (writes : effect.copy = some change) :
    store.Reaches arrival.sent arrival.outcome change.key := by
  obtain ⟨current, found, decided⟩ := decides.found
  obtain ⟨queued, named⟩ := mem_of_operation? found
  exact reaches_of_deciding (decides.own.keyOf_eq queued named) answers decided writes

/-- A decision stays as it is when another result is carried out, unless that writes the
copy of its entity. -/
theorem Decides.carry (decides : store.Decides other later)
    (carried : store.Decides arrival decided)
    (differs : keyOf arrival.sent ≠ keyOf other.sent)
    (beside : ∀ change, effect.copy = some change → change.key ≠ keyOf other.sent) :
    (store.carry arrival.sent.id attempted effect).Decides other later := by
  have ids := carried.id_ne decides differs
  constructor
  · intro row queued named
    obtain ⟨present, wasQueued, same, entity, -⟩ := mem_carry queued
    exact isFor_iff_keyOf.mpr
      (entity.symm.trans (decides.own.keyOf_eq wasQueued (same.trans named)))
  · obtain ⟨current, found, rfl⟩ := decides.found
    obtain ⟨currentQueued, currentNamed⟩ := mem_of_operation? found
    have entity := decides.own.keyOf_eq currentQueued currentNamed
    refine ⟨current, (operation?_carry ids.symm).trans found, ?_⟩
    rw [entity?_carry beside, hasOpenRival_carry fun row queued named => ?_]
    rw [carried.own.keyOf_eq queued named, entity]
    exact differs

end Decisions

/-! ### Runs of results -/

/-- Whether decisions have been made about results, none of which writes where another one
reads or writes. -/
structure Planned (store : Store) (decision : Arrival → Except StoreError Effect)
    (reach : Arrival → EntityKey → Prop) (arrivals : List Arrival) : Prop where
  answers : ∀ arrival ∈ arrivals, arrival.outcome.Answers arrival.sent
  decides : ∀ arrival ∈ arrivals, store.Decides arrival (decision arrival)
  reads : ∀ arrival ∈ arrivals, reach arrival (keyOf arrival.sent)
  writes : ∀ arrival ∈ arrivals, ∀ effect change, decision arrival = .ok effect →
    effect.copy = some change → reach arrival change.key
  apart : arrivals.Pairwise fun one other => ∀ key, reach one key → ¬ reach other key

section Runs

variable {store : Store} {decision : Arrival → Except StoreError Effect}
  {reach : Arrival → EntityKey → Prop} {arrival : Arrival} {rest arrivals others : List Arrival}
  {now : Instant}

namespace Planned

theorem perm (planned : store.Planned decision reach arrivals) (same : arrivals.Perm others) :
    store.Planned decision reach others where
  answers arrival member := planned.answers arrival (same.mem_iff.mpr member)
  decides arrival member := planned.decides arrival (same.mem_iff.mpr member)
  reads arrival member := planned.reads arrival (same.mem_iff.mpr member)
  writes arrival member := planned.writes arrival (same.mem_iff.mpr member)
  apart := (same.pairwise_iff fun apart key two one => apart key one two).mp planned.apart

theorem tail (planned : store.Planned decision reach (arrival :: rest)) :
    store.Planned decision reach rest where
  answers other member := planned.answers other (List.mem_cons_of_mem _ member)
  decides other member := planned.decides other (List.mem_cons_of_mem _ member)
  reads other member := planned.reads other (List.mem_cons_of_mem _ member)
  writes other member := planned.writes other (List.mem_cons_of_mem _ member)
  apart := (List.pairwise_cons.mp planned.apart).2

/-- The plan for the results that are left stands when one is carried out. -/
theorem carry {effect : Effect} (planned : store.Planned decision reach (arrival :: rest))
    (decided : decision arrival = .ok effect) (attempted : Option Instant) :
    (store.carry arrival.sent.id attempted effect).Planned decision reach rest := by
  have first := List.mem_cons_self (a := arrival) (l := rest)
  refine { planned.tail with decides := fun other member => ?_ }
  have apart := (List.pairwise_cons.mp planned.apart).1 other member
  have othersKey := planned.tail.reads other member
  refine (planned.tail.decides other member).carry (planned.decides arrival first) ?_ ?_
  · intro same
    exact apart _ (planned.reads arrival first) (same ▸ othersKey)
  · intro change writes same
    exact apart _ (planned.writes arrival first effect change decided writes) (same ▸ othersKey)

/-- Two results that are planned commute, or are one. -/
theorem enact_comm {one two : Arrival} (planned : store.Planned decision reach arrivals)
    (first : one ∈ arrivals) (second : two ∈ arrivals) (view : View) :
    (view.enact one.sent.id (decision one)).enact two.sent.id (decision two) =
      (view.enact two.sent.id (decision two)).enact one.sent.id (decision one) := by
  by_cases same : one = two
  · rw [same]
  · have symmetric : Std.Symm fun one other : Arrival => ∀ key, reach one key → ¬ reach other key :=
      ⟨fun _ _ apart key two one => apart key one two⟩
    have apart := planned.apart.forall first second same
    refine View.enact_comm ?_ ?_
    · refine (planned.decides one first).id_ne (planned.decides two second) fun equal => ?_
      exact apart _ (planned.reads one first) (equal ▸ planned.reads two second)
    · intro effect later change next decided decidedLater writes writesLater equal
      exact apart _ (planned.writes one first effect change decided writes)
        (equal ▸ planned.writes two second later next decidedLater writesLater)

end Planned

/-- `Planned` results are answered, and do what was decided, one after the other. -/
theorem Planned.acceptAll {timed : List (Arrival × Instant)}
    (planned : store.Planned decision reach (timed.map Prod.fst)) :
    (store.acceptAll timed).1 =
        (timed.map Prod.fst).map (fun arrival => (arrival, (decision arrival).map Effect.receipt)) ∧
      (store.acceptAll timed).2.view = (timed.map Prod.fst).foldl
        (fun view arrival => view.enact arrival.sent.id (decision arrival)) store.view ∧
      (store.acceptAll timed).2.watermarks = store.watermarks ∧
      (store.acceptAll timed).2.lastSequence = store.lastSequence := by
  induction timed generalizing store with
  | nil => exact ⟨rfl, rfl, rfl, rfl⟩
  | cons entry rest inductionHypothesis =>
    obtain ⟨arrival, now⟩ := entry
    have first := List.mem_cons_self (a := arrival) (l := rest.map Prod.fst)
    have accepted := (planned.decides arrival first).accept_eq (planned.answers arrival first) now
    simp only [Store.acceptAll, List.map_cons, List.foldl_cons]
    rw [accepted]
    cases decided : decision arrival with
    | error fault =>
      -- A result that is refused leaves the store to the ones that follow.
      obtain ⟨answers, view, watermarks, lastSequence⟩ := inductionHypothesis planned.tail
      exact ⟨congrArg _ answers, view, watermarks, lastSequence⟩
    | ok effect =>
      obtain ⟨answers, view, watermarks, lastSequence⟩ :=
        inductionHypothesis (planned.carry decided (some now))
      simp only [view_carry, watermarks_carry, lastSequence_carry] at view watermarks lastSequence
      exact ⟨congrArg _ answers, view, watermarks, lastSequence⟩

end Runs

section Order

variable {store next : Store} {sent : Operation} {outcome : Outcome} {arrival : Arrival}
  {receipt : Receipt} {now : Instant}

theorem Reachable.acceptAll (reachable : Reachable store) (timed : List (Arrival × Instant)) :
    Reachable (store.acceptAll timed).2 := by
  induction timed generalizing store with
  | nil => exact reachable
  | cons entry rest inductionHypothesis =>
    obtain ⟨arrival, now⟩ := entry
    unfold Store.acceptAll
    cases accepted : store.accept arrival.sent arrival.outcome now with
    | error fault => exact inductionHypothesis reachable
    | ok result =>
      obtain ⟨receipt, next⟩ := result
      have received : store.receive arrival.sent arrival.outcome now = .ok next := by
        rw [receive_eq_map_accept, accepted]
        rfl
      exact inductionHypothesis (reachable.step (step_of_receive received))

/-- A decision is made about a result that is `Awaited`. -/
theorem Awaited.decides (awaited : store.Awaited arrival) :
    ∃ decided, store.Decides arrival decided := by
  obtain ⟨before, tables, reachable, listed, leads⟩ := awaited.listed
  obtain ⟨current, found⟩ := Option.isSome_iff_exists.mp awaited.queued
  exact ⟨_, findsOwn_of_leads reachable.queueSound listed leads, current, found, rfl⟩

/-- A copy that is read back under the identity of its entity is all that is reached. -/
theorem Reaches.eq_keyOf {key : EntityKey} (reaches : store.Reaches sent outcome key)
    (back : ∀ document, store.document? (keyOf sent) = some document →
      EntityMetadata.idOf document = .ok sent.itemId) : key = keyOf sent := by
  cases reaches with
  | own => rfl
  | copy answers held names =>
    cases names.symm.trans (back _ held)
    rfl

/-- Stores with one view have the same copies (`SameUpToTimes`), if these are in order. -/
theorem sameUpToTimes_of_view {left right : Store} (leftOrdered : KeyedList.Ascending left.entities)
    (rightOrdered : KeyedList.Ascending right.entities) (views : left.view = right.view)
    (watermarks : left.watermarks = right.watermarks)
    (lastSequence : left.lastSequence = right.lastSequence) : SameUpToTimes left right where
  entities := leftOrdered.ext rightOrdered fun key =>
    congrFun (congrArg View.copies views) key
  queue := congrArg View.rows views
  watermarks := watermarks
  lastSequence := lastSequence

/-- The order in which results arrive is immaterial: results that are awaited, no two of which
reach a copy in common (`Store.Reaches`), are answered alike in every order, and leave the same
copies, operations and tokens, apart from the moments of attempts (`SameUpToTimes`). -/
theorem results_commute (reachable : Reachable store) {left right : List (Arrival × Instant)}
    (awaited : ∀ arrival ∈ left.map Prod.fst, store.Awaited arrival)
    (apart : (left.map Prod.fst).Pairwise fun one other => ∀ key,
      store.Reaches one.sent one.outcome key → ¬ store.Reaches other.sent other.outcome key)
    (same : (left.map Prod.fst).Perm (right.map Prod.fst)) :
    (store.acceptAll left).1.Perm (store.acceptAll right).1 ∧
      SameUpToTimes (store.acceptAll left).2 (store.acceptAll right).2 := by
  have inhabited : Nonempty (Except StoreError Effect) := ⟨.error .poolExhausted⟩
  choose! decision decides using fun arrival member => (awaited arrival member).decides
  have planned : store.Planned decision (fun arrival => store.Reaches arrival.sent arrival.outcome)
      (left.map Prod.fst) :=
    { answers := fun arrival member => (awaited arrival member).answers
      decides
      reads := fun arrival member => .own
      writes := fun arrival member effect change decided writes =>
        (decided ▸ decides arrival member).reaches (awaited arrival member).answers writes
      apart }
  obtain ⟨leftAnswers, leftView, leftWatermarks, leftSequence⟩ := planned.acceptAll
  obtain ⟨rightAnswers, rightView, rightWatermarks, rightSequence⟩ := (planned.perm same).acceptAll
  have views : (store.acceptAll left).2.view = (store.acceptAll right).2.view := by
    rw [leftView, rightView]
    exact same.foldl_eq' (fun one first two second view => planned.enact_comm first second view) _
  refine ⟨?_, ?_⟩
  · rw [leftAnswers, rightAnswers]
    exact same.map _
  · exact sameUpToTimes_of_view (reachable.acceptAll left).ascending
      (reachable.acceptAll right).ascending views (leftWatermarks.trans rightWatermarks.symm)
      (leftSequence.trans rightSequence.symm)

end Order

namespace Racing

/-- The success of the first creation, and the failure of the second. -/
def success : Arrival := ⟨Stray.first, .accepted none (some "v1")⟩

@[inherit_doc success]
def failure : Arrival := ⟨Stray.second, .refused (some 503) "unavailable"⟩

theorem awaited_success : Stray.created.Awaited success where
  listed := ⟨Stray.created, [], Stray.reachable_created, by decide +kernel, .refl⟩
  queued := rfl
  answers := nofun

theorem awaited_failure : Stray.created.Awaited failure where
  listed := ⟨Stray.created, [], Stray.reachable_created, by decide +kernel, .refl⟩
  queued := rfl
  answers := nofun

/-- The results in the order of the creations, and the other way round. -/
def inOrder : List (Arrival × Instant) := [(success, ⟨1, 0⟩), (failure, ⟨2, 0⟩)]

@[inherit_doc inOrder]
def inReverse : List (Arrival × Instant) := [(failure, ⟨1, 0⟩), (success, ⟨2, 0⟩)]

theorem awaited : ∀ arrival ∈ inOrder.map Prod.fst, Stray.created.Awaited arrival :=
  List.forall_mem_cons.mpr ⟨awaited_success, List.forall_mem_singleton.mpr awaited_failure⟩

theorem perm : (inOrder.map Prod.fst).Perm (inReverse.map Prod.fst) :=
  List.Perm.swap ..

/-- A result about a created entity reaches the copy of this entity alone. -/
theorem eq_of_reaches {id : String} {sent : Operation} {outcome : Outcome} {key : EntityKey}
    (named : keyOf sent = ⟨"todo", id⟩)
    (held : Stray.created.entity? ⟨"todo", id⟩ = some (Stray.copy id).2)
    (reaches : Stray.created.Reaches sent outcome key) : key = ⟨"todo", id⟩ := by
  have itself : sent.itemId = id := congrArg EntityKey.id named
  refine (reaches.eq_keyOf fun document found => ?_).trans named
  have read : Stray.created.document? ⟨"todo", id⟩ = some (Stray.entity id) :=
    document?_of_read held (Stray.read_render_entity id)
  rw [named, read] at found
  cases found
  rw [itself]
  rfl

theorem apart : (inOrder.map Prod.fst).Pairwise fun one other => ∀ key,
    Stray.created.Reaches one.sent one.outcome key →
      ¬ Stray.created.Reaches other.sent other.outcome key := by
  refine List.pairwise_pair.mpr fun key one other => ?_
  have firstKey : key = ⟨"todo", "1"⟩ := eq_of_reaches rfl rfl one
  have secondKey : key = ⟨"todo", "2"⟩ := eq_of_reaches rfl rfl other
  exact absurd (firstKey.symm.trans secondKey) (by decide)

end Racing

/-- A success and a failure are answered alike in both orders, and leave the same but for
the moment of the failure. -/
theorem results_commute_racing :
    (∀ arrival ∈ Racing.inOrder.map Prod.fst, Stray.created.Awaited arrival) ∧
      (Stray.created.acceptAll Racing.inOrder).1.Perm
        (Stray.created.acceptAll Racing.inReverse).1 ∧
      SameUpToTimes (Stray.created.acceptAll Racing.inOrder).2
        (Stray.created.acceptAll Racing.inReverse).2 ∧
      (Stray.created.acceptAll Racing.inOrder).2 ≠ (Stray.created.acceptAll Racing.inReverse).2 := by
  obtain ⟨answers, stores⟩ :=
    results_commute Stray.reachable_created Racing.awaited Racing.apart Racing.perm
  exact ⟨Racing.awaited, answers, stores, by decide +kernel⟩

namespace Crossing

/-- The identities of two entities, of which the first is a number. -/
def firstId : String := "5.299999999999999e-54"

@[inherit_doc firstId]
def secondId : String := "5.299999999999998e-54"

/-- The second entity. -/
def document : Document := .object [("id", .text secondId), ("t", .text "b")]

/-- The creation of an entity. -/
def creation (id item : String) : Mutation where
  kind := .add
  table := "todo"
  itemId := id
  item
  before := none
  entityVersion := none

/-- The creation of the first entity, whose number is read as another one each time. -/
def first : Mutation := creation firstId "\x7b\"id\":53e-55\x7d"

def second : Mutation := creation secondId document.render

/-- The store in which both entities are created. -/
def created : Store where
  entities := [
    (⟨"todo", secondId⟩, ⟨document.render, none, none⟩),
    (⟨"todo", firstId⟩, ⟨"\x7b\"id\":5.299999999999999e-54\x7d", none, none⟩)]
  queue := [.ofMutation first 1 ⟨0, 0⟩, .ofMutation second 2 ⟨0, 0⟩]
  watermarks := []
  lastSequence := 2

/-- The success of the first creation, which gives the entity a version. -/
def versioned : Arrival := ⟨.ofMutation first 1 ⟨0, 0⟩, .accepted none (some "v1")⟩

/-- The success of the second creation, which comes with the entity. -/
def answered : Arrival :=
  ⟨.ofMutation second 2 ⟨0, 0⟩,
    .accepted (some (.object [("id", .text secondId), ("version", .text "v2")])) none⟩

theorem reachable_created : Reachable created := by
  have one : empty.recordLocalMutation first ⟨0, 0⟩ =
      .ok (.created (.ofMutation first 1 ⟨0, 0⟩),
        ⟨[(⟨"todo", firstId⟩, ⟨"\x7b\"id\":5.299999999999999e-54\x7d", none, none⟩)],
          [.ofMutation first 1 ⟨0, 0⟩], [], 1⟩) := by
    decide +kernel
  have two : Store.recordLocalMutation
      ⟨[(⟨"todo", firstId⟩, ⟨"\x7b\"id\":5.299999999999999e-54\x7d", none, none⟩)],
        [.ofMutation first 1 ⟨0, 0⟩], [], 1⟩ second ⟨0, 0⟩ =
      .ok (.created (.ofMutation second 2 ⟨0, 0⟩), created) := by
    decide +kernel
  exact .step (.step .empty (.edited one)) (.edited two)

theorem awaited_versioned : created.Awaited versioned where
  listed := ⟨created, [], reachable_created, by decide +kernel, .refl⟩
  queued := by decide +kernel
  answers := nofun

theorem awaited_answered : created.Awaited answered where
  listed := ⟨created, [], reachable_created, by decide +kernel, .refl⟩
  queued := by decide +kernel
  answers := by
    rintro _ ⟨⟩
    constructor
    · rintro fields ⟨⟩
      exact List.pairwise_pair.mpr (by decide)
    · rintro id ⟨metadata, usable, rfl⟩
      cases usable
      rfl

/-- The results in the order of the creations, and the other way round. -/
def inOrder : List (Arrival × Instant) := [(versioned, ⟨0, 0⟩), (answered, ⟨0, 0⟩)]

@[inherit_doc inOrder]
def inReverse : List (Arrival × Instant) := [(answered, ⟨0, 0⟩), (versioned, ⟨0, 0⟩)]

end Crossing

/-- Two successes on different entities, one of whose copies is read back as the other
entity, leave other copies in one order than in the other. -/
theorem results_cross :
    Reachable Crossing.created ∧ Crossing.created.Awaited Crossing.versioned ∧
      Crossing.created.Awaited Crossing.answered ∧
      keyOf Crossing.versioned.sent ≠ keyOf Crossing.answered.sent ∧
      ¬ SameUpToTimes (Crossing.created.acceptAll Crossing.inOrder).2
        (Crossing.created.acceptAll Crossing.inReverse).2 := by
  have differ : (Crossing.created.acceptAll Crossing.inOrder).2.entities ≠
      (Crossing.created.acceptAll Crossing.inReverse).2.entities := by
    decide +kernel
  exact ⟨Crossing.reachable_created, Crossing.awaited_versioned, Crossing.awaited_answered,
    by decide, fun same => differ same.entities⟩

end Store

end OfflineSync
