/-!
# Calls that may fail

A call that is made of calls succeeds exactly when each of them does. Lemmas such as `bind_eq_ok`
and `map_eq_ok` take a successful call apart without unfolding the calls it is made of, and
`bind_eq_error` a refused one.
-/

namespace OfflineSync

variable {ε ε' α β : Type}

/-- Two calls in sequence succeed exactly when the first gives what the second
succeeds on. -/
theorem bind_eq_ok {call : Except ε α} {next : α → Except ε β} {result : β} :
    (call >>= next) = .ok result ↔ ∃ value, call = .ok value ∧ next value = .ok result := by
  cases call with
  | error fault => simp [bind, Except.bind]
  | ok value => simp [bind, Except.bind]

/-- Two calls in sequence fail where the first does, or the second on what the first gives. -/
theorem bind_eq_error {call : Except ε α} {next : α → Except ε β} {fault : ε} :
    (call >>= next) = .error fault ↔
      call = .error fault ∨ ∃ value, call = .ok value ∧ next value = .error fault := by
  cases call with
  | error other => simp [bind, Except.bind]
  | ok value => simp [bind, Except.bind]

/-- Two calls in sequence depend on the second only where the first succeeds. -/
theorem bind_congr_ok {call : Except ε α} {next other : α → Except ε β}
    (same : ∀ value, call = .ok value → next value = other value) :
    (call >>= next) = (call >>= other) := by
  cases call with
  | error fault => rfl
  | ok value => exact same value rfl

/-- Telling a fault in other words changes no success. -/
theorem mapError_eq_ok {call : Except ε α} {tell : ε → ε'} {result : α} :
    call.mapError tell = .ok result ↔ call = .ok result := by
  cases call with
  | error fault => exact ⟨nofun, nofun⟩
  | ok value => exact ⟨fun same => by cases same; rfl, fun same => by cases same; rfl⟩

/-- A fault that is told in other words is the fault of the call. -/
theorem mapError_eq_error {call : Except ε α} {tell : ε → ε'} {told : ε'} :
    call.mapError tell = .error told ↔ ∃ fault, call = .error fault ∧ tell fault = told := by
  cases call with
  | error fault =>
    change Except.error (tell fault) = Except.error told ↔ _
    simp
  | ok value => exact ⟨nofun, nofun⟩

/-- A mapped call succeeds exactly on the images of what the call gives. -/
theorem map_eq_ok {call : Except ε α} {f : α → β} {result : β} :
    call.map f = .ok result ↔ ∃ value, call = .ok value ∧ f value = result := by
  cases call <;> simp [Except.map]

/-- To map a call twice is to map it once. -/
theorem map_map {γ : Type} {call : Except ε α} {f : α → β} {g : β → γ} :
    (call.map f).map g = call.map (g ∘ f) := by
  cases call <;> rfl

/-- A pure step gives its value. -/
@[simp] theorem pure_eq_ok {value result : α} :
    (pure value : Except ε α) = .ok result ↔ value = result := by
  simp [pure, Except.pure]

/-- A check that raises a fault is passed exactly where it does not apply. -/
theorem unless_throw_eq_ok {refused : Prop} [Decidable refused] {fault : ε}
    {next : Unit → Except ε α} {result : α} :
    (if refused then throw fault >>= next else next ()) = .ok result ↔
      ¬ refused ∧ next () = .ok result := by
  by_cases applies : refused
  · simp [applies, throw, throwThe, MonadExceptOf.throw, bind, Except.bind]
  · simp [applies]

end OfflineSync
