import OfflineSync.Entity.Validation

/-!
# Names of tables and entities

What a valid name is made of, `EntityId.validate_eq_ok` and `TableName.validate_eq_ok`. The name of
a table has fewer marks than the identity of an entity may have, and so is formed like one,
`wellFormed_identity`.
-/

namespace OfflineSync

namespace EntityId

variable {chars : List Char}

/-- An identity is valid when it is present, short and well formed. -/
theorem validate_eq_ok {value : String} :
    validate value = .ok () ↔
      value.isEmpty = false ∧ value.length ≤ mostCharacters ∧ wellFormed value.toList := by
  unfold validate
  split
  · simp_all
  · split
    · rename_i long
      simp [Nat.not_le.mpr long]
    · rename_i short
      split <;> simp_all [Nat.le_of_not_lt short]

/-- Every character of a well-formed identity (`wellFormed`) may follow its first. -/
theorem mayFollow_of_wellFormed (formed : wellFormed chars) : ∀ c ∈ chars, mayFollow c := by
  cases chars with
  | nil => simp
  | cons first rest =>
    simp only [wellFormed, Bool.and_eq_true, List.all_eq_true] at formed
    refine List.forall_mem_cons.mpr ⟨?_, formed.2⟩
    simp [mayFollow, formed.1]

end EntityId

namespace TableName

variable {table : String}

/-- The name of a table is valid when it is present, short and well formed. -/
theorem validate_eq_ok :
    validate table = .ok () ↔
      table.isEmpty = false ∧ table.utf8ByteSize ≤ mostBytes ∧ wellFormed table.toList := by
  unfold validate
  split
  · simp_all
  · split
    · rename_i long
      simp [Nat.not_le.mpr long]
    · rename_i short
      split <;> simp_all [Nat.le_of_not_lt short]

/-- The name of a table has no characters but letters, digits and underscores. -/
theorem plain_of_mem (valid : validate table = .ok ()) {c : Char} (among : c ∈ table.toList) :
    isLetterOrDigit c || c == '_' := by
  obtain ⟨-, -, formed⟩ := validate_eq_ok.mp valid
  cases letters : table.toList with
  | nil =>
    rw [letters] at among
    cases among
  | cons first rest =>
    rw [letters] at formed among
    obtain ⟨letter, others⟩ := Bool.and_eq_true_iff.mp formed
    rcases List.mem_cons.mp among with rfl | later
    · simp [isLetterOrDigit, letter]
    · exact List.all_eq_true.mp others c later

/-- The name of a table has no dot. -/
theorem no_dot (valid : validate table = .ok ()) : '.' ∉ table.toList :=
  fun dot => absurd (plain_of_mem valid dot) (by decide)

/-- The name of a table is formed like the identity of an entity. -/
theorem wellFormed_identity {chars : List Char} (formed : wellFormed chars) :
    EntityId.wellFormed chars := by
  cases chars with
  | nil => cases formed
  | cons first rest =>
    simp only [wellFormed, Bool.and_eq_true, List.all_eq_true] at formed
    simp only [EntityId.wellFormed, Bool.and_eq_true, List.all_eq_true]
    refine ⟨by simp [isLetterOrDigit, formed.1], fun c among => ?_⟩
    have plain := formed.2 c among
    simp only [Bool.or_eq_true] at plain
    rcases plain with letter | underscore
    · simp [EntityId.mayFollow, letter]
    · simp [EntityId.mayFollow, underscore]

end TableName

end OfflineSync
