import OfflineSync.KeyedList

/-!
# Ascending lists

The keys of a keyed list are meant to ascend. Placing values keeps them `Ascending`, and an
ascending list is determined by its lookups, `Ascending.ext`.
-/

namespace OfflineSync.KeyedList

variable {κ α β : Type} [DecidableEq κ]

/-- A key without a value stands nowhere in the list: what `get?` does not find is not there. -/
theorem get?_eq_none {key : κ} {entries : KeyedList κ α} :
    get? key entries = none ↔ ∀ entry ∈ entries, entry.1 ≠ key := by
  induction entries with
  | nil => simp
  | cons entry rest inductionHypothesis =>
    obtain ⟨other, present⟩ := entry
    unfold get?
    split
    · rename_i same
      simp [same]
    · rename_i differs
      simp [inductionHypothesis, differs]

/-- The values of a list under their keys, changed alike. -/
theorem get?_map (f : α → β) (key : κ) (entries : KeyedList κ α) :
    get? key (entries.map fun entry => (entry.1, f entry.2)) = (get? key entries).map f := by
  induction entries with
  | nil => rfl
  | cons entry rest inductionHypothesis =>
    obtain ⟨other, present⟩ := entry
    by_cases same : other = key <;> simp [get?, same, inductionHypothesis]

/-- The `keys` of a list are those that have a value. -/
theorem mem_keys {key : κ} {entries : KeyedList κ α} :
    key ∈ keys entries ↔ (get? key entries).isSome := by
  induction entries with
  | nil => simp [keys]
  | cons entry rest inductionHypothesis =>
    obtain ⟨other, present⟩ := entry
    by_cases same : other = key
    · simp [keys, get?, same]
    · rw [get?, if_neg same, ← inductionHypothesis, keys, List.map_cons, List.mem_cons, keys]
      exact or_iff_right fun equal => same equal.symm

/-- Where all keys are different, `get?` finds each value under its key. -/
theorem get?_of_mem {key : κ} {value : α} {entries : KeyedList κ α}
    (distinct : (keys entries).Nodup) (among : (key, value) ∈ entries) : get? key entries = some value := by
  induction entries with
  | nil => cases among
  | cons entry rest inductionHypothesis =>
    obtain ⟨fresh, distinct⟩ := List.nodup_cons.mp distinct
    rcases List.mem_cons.mp among with rfl | later
    · exact if_pos rfl
    · have named : key ∈ keys rest := List.mem_map_of_mem later
      have apart : entry.1 ≠ key := fun same => fresh (same ▸ named)
      rw [get?, if_neg apart]
      exact inductionHypothesis distinct later

/-- The value of a key stands in the list. -/
theorem mem_of_get? {key : κ} {value : α} {entries : KeyedList κ α}
    (found : get? key entries = some value) : (key, value) ∈ entries := by
  induction entries with
  | nil => cases found
  | cons entry rest inductionHypothesis =>
    unfold get? at found
    split at found
    · rename_i same
      cases found
      exact same ▸ List.mem_cons_self
    · exact List.mem_cons_of_mem _ (inductionHypothesis found)

/-- A key without a value has none to `erase`. -/
theorem erase_eq_self {key : κ} {entries : KeyedList κ α} (absent : get? key entries = none) :
    erase key entries = entries := by
  refine List.filter_eq_self.mpr fun entry among => ?_
  exact decide_eq_true (get?_eq_none.mp absent entry among)

/-- Where all keys are different, a list is a value of it and the rest, which `erase` leaves. -/
theorem perm_of_get? {key : κ} {value : α} {entries : KeyedList κ α}
    (distinct : (keys entries).Nodup) (found : get? key entries = some value) :
    entries.Perm ((key, value) :: erase key entries) := by
  induction entries with
  | nil => cases found
  | cons entry rest inductionHypothesis =>
    obtain ⟨other, present⟩ := entry
    obtain ⟨fresh, distinct⟩ := List.nodup_cons.mp distinct
    by_cases same : other = key
    · subst same
      have absent : get? other rest = none := by
        rw [← Option.not_isSome_iff_eq_none, ← mem_keys]
        exact fresh
      simp only [get?, if_true, Option.some.injEq] at found
      have removed : erase other ((other, present) :: rest) = rest := by
        rw [← erase_eq_self absent]
        simp [erase]
      rw [removed, found]
    · rw [get?, if_neg same] at found
      have kept : erase key ((other, present) :: rest) = (other, present) :: erase key rest := by
        simp [erase, same]
      rw [kept]
      exact ((inductionHypothesis distinct found).cons _).trans (.swap ..)

section Ascending

variable [Ord κ]

/-- Whether the keys of a list ascend. -/
def Ascending (entries : KeyedList κ α) : Prop :=
  entries.Pairwise fun earlier later => compare earlier.1 later.1 = .lt

/-- A list holds nothing but the value placed and what it held. -/
theorem mem_insert {key : κ} {value : α} {entries : KeyedList κ α} {entry : κ × α}
    (member : entry ∈ insert key value entries) : entry = (key, value) ∨ entry ∈ entries := by
  induction entries with
  | nil => simpa [insert] using member
  | cons first rest inductionHypothesis =>
    obtain ⟨other, present⟩ := first
    unfold insert at member
    split at member
    · rcases List.mem_cons.mp member with same | remains
      · exact .inl same
      · exact .inr (List.mem_cons_of_mem _ remains)
    · split at member
      · exact List.mem_cons.mp member
      · rcases List.mem_cons.mp member with same | remains
        · exact .inr (same ▸ List.mem_cons_self ..)
        · rcases inductionHypothesis remains with placed | held
          · exact .inl placed
          · exact .inr (List.mem_cons_of_mem _ held)

/-- A list holds nothing but the pairs placed by `insertAll` and what it held. -/
theorem mem_insertAll {additions entries : KeyedList κ α} {entry : κ × α}
    (member : entry ∈ insertAll additions entries) : entry ∈ additions ∨ entry ∈ entries := by
  induction additions generalizing entries with
  | nil => exact .inr member
  | cons addition rest inductionHypothesis =>
    have placed : entry ∈ insertAll rest (insert addition.1 addition.2 entries) := member
    rcases inductionHypothesis placed with added | present
    · exact .inl (List.mem_cons_of_mem _ added)
    · rcases mem_insert present with same | held
      · exact .inl (same ▸ List.mem_cons_self ..)
      · exact .inr held

/-- A new key makes a list longer by one, as `insert` does not replace anything. -/
theorem length_insert {key : κ} (value : α) {entries : KeyedList κ α}
    (fresh : get? key entries = none) : (insert key value entries).length = entries.length + 1 := by
  induction entries with
  | nil => rfl
  | cons entry rest inductionHypothesis =>
    obtain ⟨other, present⟩ := entry
    have apart := get?_eq_none.mp fresh
    obtain ⟨differs, others⟩ := List.forall_mem_cons.mp apart
    unfold insert
    rw [if_neg differs]
    split
    · rfl
    · rw [List.length_cons, inductionHypothesis (get?_eq_none.mpr others), List.length_cons]

/-- A list with a value placed in it is not empty. -/
theorem insert_ne_nil (key : κ) (value : α) (entries : KeyedList κ α) :
    insert key value entries ≠ [] := by
  intro empty
  have found := get?_insert key key value entries
  rw [empty, if_pos rfl] at found
  cases found

/-- Only no pairs make an empty list. -/
theorem ofList_eq_nil {pairs : List (κ × α)} (empty : ofList pairs = []) : pairs = [] := by
  rcases pairs.eq_nil_or_concat with none | ⟨earlier, last, rfl⟩
  · exact none
  · rw [ofList, insertAll, List.concat_eq_append, List.foldl_append] at empty
    exact absurd empty (insert_ne_nil _ _ _)

/-- Placing pairs adds their keys. -/
theorem mem_keys_insertAll {key : κ} {additions entries : KeyedList κ α} :
    key ∈ keys (insertAll additions entries) ↔
      key ∈ additions.map Prod.fst ∨ key ∈ keys entries := by
  induction additions generalizing entries with
  | nil => exact (or_iff_right List.not_mem_nil).symm
  | cons addition rest inductionHypothesis =>
    have placed : key ∈ keys (insert addition.1 addition.2 entries) ↔
        key = addition.1 ∨ key ∈ keys entries := by
      rw [mem_keys, mem_keys, get?_insert]
      by_cases same : addition.1 = key
      · simp [same]
      · rw [if_neg same]
        exact (or_iff_right fun equal => same equal.symm).symm
    change key ∈ keys (insertAll rest (insert addition.1 addition.2 entries)) ↔ _
    rw [inductionHypothesis, placed, List.map_cons, List.mem_cons, ← or_assoc,
      or_comm (a := key ∈ _)]

/-- The keys of ordered pairs are those of the pairs. -/
theorem mem_keys_ofList {key : κ} {pairs : List (κ × α)} :
    key ∈ keys (ofList pairs) ↔ key ∈ pairs.map Prod.fst :=
  mem_keys_insertAll.trans (or_iff_left List.not_mem_nil)

variable [Std.LawfulEqOrd κ]

omit [DecidableEq κ] in
/-- A lower key is another key. -/
theorem compare_ne {left right : κ} (lower : compare left right = .lt) : left ≠ right := by
  rintro rfl
  rw [Std.ReflOrd.compare_self] at lower
  cases lower

omit [DecidableEq κ] in
/-- Ascending keys are pairwise different. -/
theorem Ascending.nodup_keys {entries : KeyedList κ α} (ascending : Ascending entries) :
    (keys entries).Nodup :=
  List.pairwise_map.mpr (ascending.imp compare_ne)

/-- The first of ascending keys stands nowhere behind. -/
theorem Ascending.get?_rest {key : κ} {value : α} {rest : KeyedList κ α}
    (ascending : Ascending ((key, value) :: rest)) : get? key rest = none :=
  get?_eq_none.mpr fun entry member same =>
    compare_ne ((List.pairwise_cons.mp ascending).1 entry member) same.symm

/-- Ascending pairs are placed over what their keys had. -/
theorem get?_insertAll {additions : KeyedList κ α} (ascending : Ascending additions) (key : κ)
    (entries : KeyedList κ α) :
    get? key (insertAll additions entries) = (get? key additions).or (get? key entries) := by
  induction additions generalizing entries with
  | nil => rfl
  | cons addition rest inductionHypothesis =>
    obtain ⟨other, value⟩ := addition
    have rested := inductionHypothesis (List.pairwise_cons.mp ascending).2
      (insert other value entries)
    change get? key (insertAll rest (insert other value entries)) = _
    rw [rested, get?_insert]
    by_cases same : other = key
    · subst same
      simp [get?, ascending.get?_rest]
    · simp [get?, same]

variable [Std.TransOrd κ]

/-- Placing a value keeps a list ascending. -/
theorem Ascending.insert {entries : KeyedList κ α} (ascending : Ascending entries) (key : κ)
    (value : α) : Ascending (insert key value entries) := by
  induction entries with
  | nil => exact List.pairwise_singleton _ _
  | cons entry rest inductionHypothesis =>
    obtain ⟨other, present⟩ := entry
    obtain ⟨first, later⟩ := List.pairwise_cons.mp ascending
    unfold KeyedList.insert
    split
    · rename_i same
      subst same
      exact List.pairwise_cons.mpr ⟨first, later⟩
    · rename_i differs
      split
      · rename_i lower
        refine List.pairwise_cons.mpr ⟨fun entry member => ?_, ascending⟩
        rcases List.mem_cons.mp member with rfl | member
        · exact lower
        · exact Std.TransCmp.lt_trans lower (first entry member)
      · rename_i notLower
        refine List.pairwise_cons.mpr ⟨fun entry member => ?_, inductionHypothesis later⟩
        rcases mem_insert member with rfl | member
        · cases order : compare other key with
          | lt => rfl
          | eq => exact absurd (Std.LawfulEqOrd.eq_of_compare order) differs
          | gt => exact absurd (Std.OrientedCmp.lt_of_gt order) notLower
        · exact first entry member

/-- Placing pairs keeps a list ascending. -/
theorem Ascending.insertAll {entries : KeyedList κ α} (ascending : Ascending entries)
    (additions : List (κ × α)) : Ascending (insertAll additions entries) := by
  induction additions generalizing entries with
  | nil => exact ascending
  | cons addition rest inductionHypothesis =>
    exact inductionHypothesis (ascending.insert addition.1 addition.2)

/-- Ordered pairs ascend. -/
theorem ascending_ofList (pairs : List (κ × α)) : Ascending (ofList pairs) :=
  Ascending.insertAll List.Pairwise.nil pairs

/-- A value is placed behind lower keys. -/
theorem insert_of_lower {key : κ} {value : α} {entries : KeyedList κ α}
    (lower : ∀ entry ∈ entries, compare entry.1 key = .lt) :
    insert key value entries = entries ++ [(key, value)] := by
  induction entries with
  | nil => rfl
  | cons entry rest inductionHypothesis =>
    obtain ⟨other, present⟩ := entry
    have first := lower _ (List.mem_cons_self ..)
    have rested := inductionHypothesis fun entry member => lower entry (List.mem_cons_of_mem _ member)
    unfold insert
    rw [if_neg (compare_ne first), if_neg (Std.OrientedCmp.not_lt_of_lt first), rested]
    rfl

/-- Pairs with ascending keys are placed behind lower keys as they are: `insertAll` appends. -/
theorem insertAll_eq_append {additions entries : KeyedList κ α}
    (ascending : Ascending (entries ++ additions)) :
    insertAll additions entries = entries ++ additions := by
  induction additions generalizing entries with
  | nil => exact (List.append_nil entries).symm
  | cons addition rest inductionHypothesis =>
    have lower : ∀ entry ∈ entries, compare entry.1 addition.1 = .lt := fun entry member =>
      (List.pairwise_append.mp ascending).2.2 entry member addition (List.mem_cons_self ..)
    rw [List.append_cons] at ascending ⊢
    rw [← inductionHypothesis ascending, ← insert_of_lower lower]
    rfl

/-- Ordering pairs with ascending keys, by `ofList`, changes nothing. -/
theorem Ascending.ofList_eq {entries : KeyedList κ α} (ascending : Ascending entries) :
    ofList entries = entries := by
  have appended : Ascending ([] ++ entries) := ascending
  exact insertAll_eq_append appended

/-- A key below the first is not found. -/
theorem Ascending.get?_lower {key other : κ} {value : α} {rest : KeyedList κ α}
    (ascending : Ascending ((other, value) :: rest)) (lower : compare key other = .lt) :
    get? key ((other, value) :: rest) = none := by
  refine get?_eq_none.mpr fun entry member same => ?_
  rcases List.mem_cons.mp member with rfl | later
  · exact compare_ne lower same.symm
  · have above := Std.TransCmp.lt_trans lower ((List.pairwise_cons.mp ascending).1 entry later)
    exact compare_ne above same.symm

/-- A value is placed in an ascending list in the stead of what its key had, which `erase`
would remove. -/
theorem Ascending.perm_insert {entries : KeyedList κ α} (ascending : Ascending entries) (key : κ)
    (value : α) : (KeyedList.insert key value entries).Perm ((key, value) :: erase key entries) := by
  induction entries with
  | nil => exact .refl _
  | cons entry rest inductionHypothesis =>
    obtain ⟨other, present⟩ := entry
    have later := (List.pairwise_cons.mp ascending).2
    unfold KeyedList.insert
    split
    · rename_i same
      subst same
      have removed : erase other ((other, present) :: rest) = rest := by
        rw [← erase_eq_self ascending.get?_rest]
        simp [erase]
      rw [removed]
    · rename_i differs
      have kept : erase key ((other, present) :: rest) = (other, present) :: erase key rest := by
        simp [erase, differs]
      rw [kept]
      split
      · rename_i lower
        have absent := ascending.get?_lower lower
        rw [get?, if_neg differs] at absent
        rw [erase_eq_self absent]
      · exact ((inductionHypothesis later).cons _).trans (.swap ..)

/-- An ascending list is determined by its lookups with `get?`. -/
theorem Ascending.ext {left right : KeyedList κ α} (leftAscending : Ascending left)
    (rightAscending : Ascending right) (same : ∀ key, get? key left = get? key right) :
    left = right := by
  induction left generalizing right with
  | nil =>
    cases right with
    | nil => rfl
    | cons entry rest =>
      obtain ⟨key, value⟩ := entry
      have found := same key
      simp [get?] at found
  | cons entry rest inductionHypothesis =>
    obtain ⟨key, value⟩ := entry
    cases right with
    | nil =>
      have found := same key
      simp [get?] at found
    | cons other others =>
      obtain ⟨otherKey, otherValue⟩ := other
      have keys : key = otherKey := by
        cases order : compare key otherKey with
        | lt =>
          have found := same key
          rw [rightAscending.get?_lower order] at found
          simp [get?] at found
        | eq => exact Std.LawfulEqOrd.eq_of_compare order
        | gt =>
          have found := same otherKey
          rw [leftAscending.get?_lower (Std.OrientedCmp.lt_of_gt order)] at found
          simp [get?] at found
      subst keys
      have values : value = otherValue := by simpa [get?] using same key
      rw [values]
      congr 1
      refine inductionHypothesis (List.pairwise_cons.mp leftAscending).2
        (List.pairwise_cons.mp rightAscending).2 fun wanted => ?_
      by_cases first : key = wanted
      · subst first
        rw [leftAscending.get?_rest, rightAscending.get?_rest]
      · simpa [get?, first] using same wanted

end Ascending

end OfflineSync.KeyedList
