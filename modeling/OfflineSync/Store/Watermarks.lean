import OfflineSync.Store.Basic

/-!
# Pull watermarks

A token holds how far the pulls of one query have come, as the latest moment of change seen. A
watermark is only ever raised, `advanceWatermark`. Token keys, `TokenKey.ofQuery`, carry the name
of their table, by which the tokens of a table are found.
-/

namespace OfflineSync

namespace TokenKey

/-- What the token keys of a table start with. -/
def ofTable (table : String) : String :=
  "dt." ++ table ++ "."

/-- The key of the token of a query on a table; `ofTable` is the part that the table decides. -/
def ofQuery (table queryId : String) : String :=
  ofTable table ++ queryId

/-- Whether a token key is one of a table's. Texts are compared up to a null
character, so that a name with one owns no token. -/
def belongsTo (table tokenKey : String) : Bool :=
  let start := (ofTable table).toList
  start.isPrefixOf tokenKey.toList && !start.contains '\x00'

end TokenKey

namespace Store

/-- Sets a watermark. -/
def setWatermark (store : Store) (tokenKey : String) (micros : Int) : Store :=
  { store with watermarks := KeyedList.insert tokenKey micros store.watermarks }

/-- Raises a watermark. The answer tells whether it was lower or absent before. -/
def advanceWatermark (store : Store) (tokenKey : String) (instant : Instant) : Bool × Store :=
  let candidate := instant.toMicros
  match store.watermark? tokenKey with
  | none => (true, store.setWatermark tokenKey candidate)
  | some present =>
    if present < candidate then (true, store.setWatermark tokenKey candidate) else (false, store)

/-- A watermark that is set is found, and every other watermark stays. -/
@[simp] theorem watermark?_setWatermark (store : Store) (tokenKey other : String) (micros : Int) :
    (store.setWatermark tokenKey micros).watermark? other =
      if tokenKey = other then some micros else store.watermark? other :=
  KeyedList.get?_insert tokenKey other micros store.watermarks

/-- A raised watermark is the greater of the present one and the candidate, and
every other watermark stays. -/
theorem watermark?_advanceWatermark (store : Store) (tokenKey other : String) (instant : Instant) :
    (store.advanceWatermark tokenKey instant).2.watermark? other =
      if tokenKey = other then
        some (((store.watermark? tokenKey).map fun present => max present instant.toMicros).getD
          instant.toMicros)
      else store.watermark? other := by
  cases present : store.watermark? tokenKey with
  | none => simp [advanceWatermark, present, watermark?_setWatermark]
  | some micros =>
    by_cases lower : micros < instant.toMicros
    · have greater : max micros instant.toMicros = instant.toMicros := by omega
      simp [advanceWatermark, present, lower, watermark?_setWatermark, greater]
    · have greater : max micros instant.toMicros = micros := by omega
      by_cases same : tokenKey = other
      · subst same
        simp [advanceWatermark, present, lower, greater]
      · simp [advanceWatermark, present, lower, same]

section AdvanceWatermark

variable (store : Store) (tokenKey : String) (instant : Instant)

/-- Raising a watermark changes the watermarks alone. -/
theorem advanceWatermark_eq :
    (store.advanceWatermark tokenKey instant).2 =
      { store with watermarks := (store.advanceWatermark tokenKey instant).2.watermarks } := by
  unfold advanceWatermark
  split
  · rfl
  · dsimp only
    split <;> rfl

@[simp] theorem entities_advanceWatermark :
    (store.advanceWatermark tokenKey instant).2.entities = store.entities := by
  rw [advanceWatermark_eq]

@[simp] theorem queue_advanceWatermark :
    (store.advanceWatermark tokenKey instant).2.queue = store.queue := by
  rw [advanceWatermark_eq]

@[simp] theorem lastSequence_advanceWatermark :
    (store.advanceWatermark tokenKey instant).2.lastSequence = store.lastSequence := by
  rw [advanceWatermark_eq]

end AdvanceWatermark

/-- A stored watermark as a moment. -/
def readWatermark (micros : Int) : Except StoreError Instant :=
  match Instant.ofMicros? micros with
  | some instant => .ok instant
  | none => .error (.internal ("watermark out of range: " ++ toString micros))

/-- The moment under a token key. -/
def watermarkAt (store : Store) (tokenKey : String) : Except StoreError (Option Instant) :=
  match store.watermark? tokenKey with
  | none => .ok none
  | some micros => (readWatermark micros).map some

/-- Every token with its moment, by key. -/
def listWatermarks (store : Store) : Except StoreError (List (String × Instant)) :=
  store.watermarks.mapM fun entry => (readWatermark entry.2).map fun instant => (entry.1, instant)

/-- Removes a token. The answer tells whether it was there. -/
def resetWatermark (store : Store) (tokenKey : String) : Bool × Store :=
  ((store.watermark? tokenKey).isSome,
    { store with watermarks := KeyedList.erase tokenKey store.watermarks })

/-- Removes the tokens of a table and counts them. -/
def resetTableWatermarks (store : Store) (table : String) : Nat × Store :=
  let remaining := store.watermarks.filter fun entry => !TokenKey.belongsTo table entry.1
  (store.watermarks.length - remaining.length, { store with watermarks := remaining })

end Store

end OfflineSync
