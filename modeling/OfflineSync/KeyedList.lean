/-!
# Ordered lists of keyed values

A keyed list holds values under keys in ascending key order, one value for each
key. Lookup is the authoritative view: every other operation is described by
what it does to `KeyedList.get?`.
-/

namespace OfflineSync

/-- Pairs of a key and a value, meant to be ascending in the key. -/
abbrev KeyedList (κ : Type) (α : Type) := List (κ × α)

namespace KeyedList

variable {κ α : Type} [DecidableEq κ]

/-- The value under a key. -/
def get? (key : κ) : KeyedList κ α → Option α
  | [] => none
  | (other, value) :: rest => if other = key then some value else get? key rest

/-- Whether a key has a value. -/
def contains (key : κ) (entries : KeyedList κ α) : Bool :=
  (get? key entries).isSome

/-- Places a value under a key, at its ascending position, replacing the value
that the key had. -/
def insert [Ord κ] (key : κ) (value : α) : KeyedList κ α → KeyedList κ α
  | [] => [(key, value)]
  | (other, present) :: rest =>
    if other = key then (key, value) :: rest
    else if compare key other = .lt then (key, value) :: (other, present) :: rest
    else (other, present) :: insert key value rest

/-- Removes the value under a key, if there is one. -/
def erase (key : κ) (entries : KeyedList κ α) : KeyedList κ α :=
  entries.filter fun entry => entry.1 ≠ key

/-- Places every pair of a list by `insert`, later pairs over earlier ones. -/
def insertAll [Ord κ] (additions entries : KeyedList κ α) : KeyedList κ α :=
  additions.foldl (fun result addition => insert addition.1 addition.2 result) entries

/-- Orders arbitrary pairs by `insertAll`; of two pairs with one key the later one stays. -/
def ofList [Ord κ] (pairs : List (κ × α)) : KeyedList κ α :=
  insertAll pairs []

@[simp] theorem get?_nil (key : κ) : get? key ([] : KeyedList κ α) = none := rfl

/-- A placed value is found under its key, and no other key sees the change. -/
@[simp] theorem get?_insert [Ord κ] (key other : κ) (value : α) (entries : KeyedList κ α) :
    get? other (insert key value entries) =
      if key = other then some value else get? other entries := by
  induction entries with
  | nil => simp [insert, get?]
  | cons entry rest inductionHypothesis =>
    obtain ⟨present, old⟩ := entry
    unfold insert
    split
    · rename_i same
      subst same
      by_cases found : present = other <;> simp [get?, found]
    · split
      · by_cases found : key = other <;> simp [get?, found]
      · by_cases found : present = other
        · subst found
          simp_all [get?, eq_comm]
        · simp [get?, found, inductionHypothesis]

/-- Dropping entries by their keys leaves each other key its value. -/
theorem get?_filter (keeps : κ → Bool) (key : κ) (entries : KeyedList κ α) :
    get? key (entries.filter fun entry => keeps entry.1) =
      if keeps key then get? key entries else none := by
  induction entries with
  | nil => simp
  | cons entry rest inductionHypothesis =>
    obtain ⟨present, value⟩ := entry
    by_cases found : present = key
    · subst found
      by_cases kept : keeps present <;> simp_all [get?]
    · by_cases kept : keeps present <;> simp_all [get?]

/-- An erased key has no value, and every other key keeps its own. -/
@[simp] theorem get?_erase (key other : κ) (entries : KeyedList κ α) :
    get? other (erase key entries) = if key = other then none else get? other entries := by
  have filtered := get?_filter (fun present => decide (present ≠ key)) other entries
  by_cases same : key = other <;> simp_all [erase, eq_comm]

/-- The keys of a list, in its order. -/
def keys (entries : KeyedList κ α) : List κ :=
  entries.map Prod.fst

end KeyedList

end OfflineSync
