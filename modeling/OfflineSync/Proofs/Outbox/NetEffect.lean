import OfflineSync.Proofs.Outbox.Coalescing

/-!
# The net effect of merged edits

Edits of one entity are merged into one operation, which may change its kind, be dropped and be
created anew (`Folds`). What it asks of the remote, `Operation.performQueued`, is always what the
edits ask in turn, `Mutation.performAll`, and it asks by the verb that the remote can carry out.
Entities are known here by the texts of their documents.
-/

namespace OfflineSync

/-- What the remote holds of an entity once it has done what an operation of a kind asks.
It refuses to create an entity that it holds, and to replace or delete one that it does
not hold. -/
def OperationKind.perform (kind : OperationKind) (payload held : Option String) :
    Option (Option String) :=
  match kind, payload, held with
  | .add, some text, none => some (some text)
  | .replace, some text, some _ => some (some text)
  | .delete, _, some _ => some none
  | _, _, _ => none

/-- The local copy of an entity that an edit leaves. -/
def Mutation.copy (mutation : Mutation) : Option String :=
  Operation.payloadFor mutation.kind mutation.item

/-- What the remote holds once an edit was sent as it is. -/
def Mutation.perform (mutation : Mutation) (held : Option String) : Option (Option String) :=
  mutation.kind.perform mutation.copy held

/-- What the remote holds once edits were sent in order, each by `perform`. -/
def Mutation.performAll (edits : List Mutation) (held : Option String) : Option (Option String) :=
  edits.foldlM (fun held mutation => mutation.perform held) held

/-- What the remote holds once the operation that is queued was sent, if there is one. -/
def Operation.performQueued (row : Option Operation) (held : Option String) :
    Option (Option String) :=
  match row with
  | none => some held
  | some operation => operation.kind.perform operation.payload held

/-- The operation that a plan leaves queued. -/
def CoalescePlan.queued? : CoalescePlan → Option Operation
  | .insert operation | .update operation => some operation
  | .remove _ => none

/-- Edits of an entity that are accepted one after the other, with the operation that they
leave queued and the local copy. At first nothing is queued, and the local copy is what
the remote holds. While nothing is queued, an edit creates the entity exactly if there is
no local copy. -/
inductive Folds (held : Option String) :
    List Mutation → Option Operation → Option String → Prop where
  | start : Folds held [] none held
  | edited {edits : List Mutation} {row : Option Operation} {copy : Option String}
      {mutation : Mutation} {plan : CoalescePlan} {sequence : Int} {now : Instant}
      (earlier : Folds held edits row copy)
      (creates : row = none → (mutation.kind = .add ↔ copy = none))
      (accepted : coalesce row mutation sequence now = .ok plan) :
      Folds held (edits ++ [mutation]) plan.queued? mutation.copy

/-- Whether a queued operation is the difference between what the remote holds and the
local copy. -/
inductive Nets (held : Option String) : Option Operation → Option String → Prop where
  | even : Nets held none held
  | queued {operation : Operation} (creates : operation.kind = .add ↔ held = none)
      (deletes : operation.kind = .delete ↔ operation.payload = none) :
      Nets held (some operation) operation.payload

section Runs

variable {held copy : Option String} {row : Option Operation} {edits : List Mutation}
  {mutation : Mutation} {plan : CoalescePlan} {sequence : Int} {now : Instant}

/-- A remote carries out an edit that creates what it does not hold, or changes what it
does. -/
theorem Mutation.perform_eq_some (fits : mutation.kind = .add ↔ held = none) :
    mutation.perform held = some mutation.copy := by
  unfold Mutation.perform Mutation.copy
  cases kind : mutation.kind <;> cases held <;>
    simp_all [OperationKind.perform, Operation.payloadFor]

/-- Edits are sent in order. -/
theorem Mutation.performAll_append {middle : Option String}
    (earlier : performAll edits held = some middle) :
    performAll (edits ++ [mutation]) held = mutation.perform middle := by
  unfold performAll at earlier ⊢
  simp [List.foldlM_append, earlier]

namespace Nets

/-- The operation that is queued turns what the remote holds into the local copy (`Nets`). -/
theorem performQueued (nets : Nets held row copy) :
    Operation.performQueued row held = some copy := by
  cases nets with
  | even => rfl
  | @queued operation creates deletes =>
    unfold Operation.performQueued
    cases kind : operation.kind <;> cases payload : operation.payload <;> cases held <;>
      simp_all [OperationKind.perform]

/-- An edit that is accepted creates the entity exactly if there is no local copy. -/
theorem creates_iff (nets : Nets held row copy)
    (creates : row = none → (mutation.kind = .add ↔ copy = none))
    (accepted : coalesce row mutation sequence now = .ok plan) :
    mutation.kind = .add ↔ copy = none := by
  cases nets with
  | even => exact creates rfl
  | @queued operation _ deletes =>
    have kept : ¬ ∃ refusal, coalesce (some operation) mutation sequence now = .error refusal := by
      rintro ⟨refusal, refused⟩
      cases accepted.symm.trans refused
    rw [coalesce_some_eq_error] at kept
    rw [← deletes]
    by_cases removed : operation.kind = .delete
    · simpa [removed] using kept
    · simpa [removed] using kept

/-- An edit that is accepted leaves the difference queued again. -/
theorem edited (nets : Nets held row copy) (creates : mutation.kind = .add ↔ copy = none)
    (accepted : coalesce row mutation sequence now = .ok plan) :
    Nets held plan.queued? mutation.copy := by
  cases nets with
  | even =>
    cases accepted
    exact .queued creates Operation.payloadFor_eq_none.symm
  | @queued operation adds deletes =>
    rcases coalesce_some_eq_ok accepted with ⟨kind, transition, rfl⟩ | ⟨transition, rfl⟩
    · have payload : (operation.merge kind mutation).payload = mutation.copy :=
        Operation.payloadFor_congr (coalesceKinds_deletes transition)
      rw [← payload]
      refine .queued ?_ Operation.payloadFor_eq_none.symm
      exact (coalesceKinds_creates transition).trans adds
    · obtain ⟨undone, removes⟩ := coalesceKinds_cancels transition
      have absent : mutation.copy = none := Operation.payloadFor_eq_none.mpr removes
      rw [absent, ← adds.mp undone]
      exact .even

end Nets

/-- Whatever edits are accepted, the operation that they leave queued is the difference
between what the remote holds and the local copy, and a remote that was sent each edit in
order would hold the local copy. -/
theorem Folds.nets (folds : Folds held edits row copy) :
    Nets held row copy ∧ Mutation.performAll edits held = some copy := by
  induction folds with
  | start => exact ⟨.even, rfl⟩
  | edited earlier creates accepted inductionHypothesis =>
    obtain ⟨nets, performed⟩ := inductionHypothesis
    have fits := nets.creates_iff creates accepted
    refine ⟨nets.edited fits accepted, ?_⟩
    rw [Mutation.performAll_append performed, Mutation.perform_eq_some fits]

/-- To send what is queued (`performQueued`) does what to send every edit in order does
(`performAll`), and the remote carries out both. The operation that is queued is a creation
exactly if the remote holds nothing, and a deletion exactly if it has no payload; behind it, an
edit is refused exactly if it creates an entity that is there, or changes one that is not. -/
theorem coalesced_net_effect (folds : Folds held edits row copy) :
    Operation.performQueued row held = some copy ∧
    Mutation.performAll edits held = some copy ∧
    ∀ operation, row = some operation →
      (operation.kind = .add ↔ held = none) ∧
      (operation.kind = .delete ↔ operation.payload = none) ∧
      ∀ mutation sequence now,
        (∃ refusal, coalesce (some operation) mutation sequence now = .error refusal) ↔
          (mutation.kind = .add ∧ copy ≠ none ∨ mutation.kind ≠ .add ∧ copy = none) := by
  obtain ⟨nets, performed⟩ := folds.nets
  refine ⟨nets.performQueued, performed, ?_⟩
  rintro operation rfl
  cases nets with
  | queued creates deletes =>
    refine ⟨creates, deletes, fun mutation sequence now => ?_⟩
    rw [coalesce_some_eq_error, ne_eq, deletes]
    by_cases absent : operation.payload = none
    · simp [absent]
    · simp [absent]

end Runs

namespace Renewal

/-- An edit of an entity, made on a version that the remote holds. -/
def edit (kind : OperationKind) (item : String) : Mutation where
  kind
  table := "todo"
  itemId := "1"
  item
  before := none
  entityVersion := some "v1"

/-- The entity is deleted, created anew, changed, deleted and created once more. -/
def edits : List Mutation :=
  [edit .delete "", edit .add "b", edit .replace "c", edit .delete "", edit .add "d"]

/-- The deletion, as it is first queued. -/
def deletion : Operation := .ofMutation (edit .delete "") 1 ⟨0, 0⟩

/-- The operation after each further edit. -/
def created : Operation := deletion.merge .replace (edit .add "b")

@[inherit_doc created]
def changed : Operation := created.merge .replace (edit .replace "c")

@[inherit_doc created]
def removed : Operation := changed.merge .delete (edit .delete "")

@[inherit_doc created]
def operation : Operation := removed.merge .replace (edit .add "d")

theorem folds_edits : Folds (some "a") edits (some operation) (some "d") := by
  have first : coalesce none (edit .delete "") 1 ⟨0, 0⟩ = .ok (.insert deletion) := rfl
  have second : coalesce (some deletion) (edit .add "b") 2 ⟨0, 0⟩ = .ok (.update created) := rfl
  have third : coalesce (some created) (edit .replace "c") 2 ⟨0, 0⟩ = .ok (.update changed) := rfl
  have fourth : coalesce (some changed) (edit .delete "") 2 ⟨0, 0⟩ = .ok (.update removed) := rfl
  have fifth : coalesce (some removed) (edit .add "d") 2 ⟨0, 0⟩ = .ok (.update operation) := rfl
  have changesPresent : (edit .delete "").kind = .add ↔ some "a" = none := by decide
  have deleted := Folds.start.edited (fun _ => changesPresent) first
  have renewed := (deleted.edited nofun second).edited nofun third
  exact (renewed.edited nofun fourth).edited nofun fifth

end Renewal

/-- What was deleted and created anew on the device is replaced on the remote. -/
theorem coalesced_net_effect_renewal :
    Folds (some "a") Renewal.edits (some Renewal.operation) (some "d") ∧
      Operation.performQueued (some Renewal.operation) (some "a") = some (some "d") ∧
      Mutation.performAll Renewal.edits (some "a") = some (some "d") ∧
      Renewal.operation.kind ≠ .add := by
  obtain ⟨sent, performed, queued⟩ := coalesced_net_effect Renewal.folds_edits
  refine ⟨Renewal.folds_edits, sent, performed, fun creates => ?_⟩
  cases (queued Renewal.operation rfl).1.mp creates

end OfflineSync
