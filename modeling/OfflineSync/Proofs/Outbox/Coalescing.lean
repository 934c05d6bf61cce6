import OfflineSync.Outbox.Coalescing

/-!
# What merging an edit does

The kind that is queued and the kind that arrives decide alone, by `coalesceKinds`, whether an edit
is refused, merged or cancels what is queued. The lemmas say when each of the three happens, and
what a merged operation then is.
-/

namespace OfflineSync

/-- An edit is refused exactly if it creates an entity that is not queued for removal, or
changes one that is. -/
theorem coalesceKinds_eq_error {existing incoming : OperationKind} :
    (∃ refusal, coalesceKinds (some existing) incoming = .error refusal) ↔
      (incoming = .add ↔ existing ≠ .delete) := by
  cases existing <;> cases incoming <;> simp [coalesceKinds]

/-- An operation is updated by `coalesceKinds` to a creation exactly if it was one. -/
theorem coalesceKinds_creates {existing incoming kind : OperationKind}
    (transition : coalesceKinds (some existing) incoming = .ok (.update kind)) :
    kind = .add ↔ existing = .add := by
  cases existing <;> cases incoming <;> cases transition <;> decide

/-- An operation is updated to a deletion exactly by a deletion. -/
theorem coalesceKinds_deletes {existing incoming kind : OperationKind}
    (transition : coalesceKinds (some existing) incoming = .ok (.update kind)) :
    kind = .delete ↔ incoming = .delete := by
  cases existing <;> cases incoming <;> cases transition <;> decide

/-- Only a deletion of what was to be created leaves nothing queued. -/
theorem coalesceKinds_cancels {existing incoming : OperationKind}
    (transition : coalesceKinds (some existing) incoming = .ok .remove) :
    existing = .add ∧ incoming = .delete := by
  cases existing <;> cases incoming <;> cases transition
  exact ⟨rfl, rfl⟩

namespace Operation

/-- The payload for a kind, `payloadFor`, is missing exactly for deletions. -/
theorem payloadFor_eq_none {kind : OperationKind} {item : String} :
    payloadFor kind item = none ↔ kind = .delete := by
  cases kind <;> simp [payloadFor]

/-- A payload depends on no more of a kind than whether it is a deletion. -/
theorem payloadFor_congr {left right : OperationKind} {item : String}
    (same : left = .delete ↔ right = .delete) : payloadFor left item = payloadFor right item := by
  cases left <;> cases right <;> simp_all [payloadFor]

end Operation

variable {operation : Operation} {mutation : Mutation} {plan : CoalescePlan} {sequence : Int}
  {now : Instant}

/-- An edit that `coalesce` accepts behind a queued operation is merged into it or cancels it. -/
theorem coalesce_some_eq_ok (accepted : coalesce (some operation) mutation sequence now = .ok plan) :
    (∃ kind, coalesceKinds (some operation.kind) mutation.kind = .ok (.update kind) ∧
        plan = .update (operation.merge kind mutation)) ∨
      coalesceKinds (some operation.kind) mutation.kind = .ok .remove ∧
        plan = .remove operation.id := by
  unfold coalesce at accepted
  rw [Option.map_some] at accepted
  cases transition : coalesceKinds (some operation.kind) mutation.kind with
  | error refusal => simp [transition] at accepted
  | ok step =>
    rw [transition] at accepted
    cases step with
    | create kind =>
      cases existing : operation.kind <;> cases incoming : mutation.kind <;>
        simp [existing, incoming, coalesceKinds] at transition
    | update kind =>
      cases accepted
      exact .inl ⟨kind, rfl, rfl⟩
    | remove =>
      cases accepted
      exact .inr ⟨rfl, rfl⟩

/-- An edit is refused by `coalesceKinds` alone, and for its reason. -/
theorem coalesce_eq_error {existing : Option Operation} {refusal : CoalesceError} :
    coalesce existing mutation sequence now = .error refusal ↔
      coalesceKinds (existing.map Operation.kind) mutation.kind = .error refusal := by
  unfold coalesce
  cases transition : coalesceKinds (existing.map Operation.kind) mutation.kind with
  | error other => simp
  | ok step => cases step <;> cases existing <;> simp

/-- Behind a queued operation, an edit is refused by the two kinds alone. -/
theorem coalesce_some_eq_error :
    (∃ refusal, coalesce (some operation) mutation sequence now = .error refusal) ↔
      (mutation.kind = .add ↔ operation.kind ≠ .delete) := by
  simp only [← coalesceKinds_eq_error, coalesce_eq_error, Option.map_some]

end OfflineSync
