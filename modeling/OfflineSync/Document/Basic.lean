import OfflineSync.Binary64.Basic
import OfflineSync.KeyedList

/-!
# Documents

A `Document` is what an entity is made of: a JSON value whose objects keep their fields in
ascending name order, one value for each name. Integers that fit 64 bits stay integers; every
other `Number` is a double-precision one. `Document.overlay` lays the fields of one object over
those of another.
-/

namespace OfflineSync

/-- A number of a document. -/
inductive Number where
  /-- An integer between the least signed and the largest unsigned 64-bit value. -/
  | integer (value : Int)
  /-- Any other number. -/
  | float (value : Binary64)
  deriving DecidableEq, Repr, Inhabited

/-- A JSON value. -/
inductive Document where
  | null
  | boolean (value : Bool)
  | number (value : Number)
  | text (value : String)
  | array (items : List Document)
  | object (fields : List (String × Document))
  deriving Repr, Inhabited

namespace Document

mutual

/-- Documents are compared by structure. -/
def decideEq : (left right : Document) → Decidable (left = right)
  | .null, .null => isTrue rfl
  | .boolean left, .boolean right =>
    decidable_of_iff (left = right) ⟨fun equal => equal ▸ rfl, fun equal => by injection equal⟩
  | .number left, .number right =>
    decidable_of_iff (left = right) ⟨fun equal => equal ▸ rfl, fun equal => by injection equal⟩
  | .text left, .text right =>
    decidable_of_iff (left = right) ⟨fun equal => equal ▸ rfl, fun equal => by injection equal⟩
  | .array left, .array right =>
    match decideEqItems left right with
    | isTrue equal => isTrue (equal ▸ rfl)
    | isFalse differ => isFalse fun equal => differ (by injection equal)
  | .object left, .object right =>
    match decideEqFields left right with
    | isTrue equal => isTrue (equal ▸ rfl)
    | isFalse differ => isFalse fun equal => differ (by injection equal)
  | .null, .boolean _ | .null, .number _ | .null, .text _ | .null, .array _ | .null, .object _
  | .boolean _, .null | .boolean _, .number _ | .boolean _, .text _ | .boolean _, .array _
  | .boolean _, .object _ | .number _, .null | .number _, .boolean _ | .number _, .text _
  | .number _, .array _ | .number _, .object _ | .text _, .null | .text _, .boolean _
  | .text _, .number _ | .text _, .array _ | .text _, .object _ | .array _, .null
  | .array _, .boolean _ | .array _, .number _ | .array _, .text _ | .array _, .object _
  | .object _, .null | .object _, .boolean _ | .object _, .number _ | .object _, .text _
  | .object _, .array _ => isFalse (by intro equal; injection equal)

/-- Arrays are compared item by item. -/
def decideEqItems : (left right : List Document) → Decidable (left = right)
  | [], [] => isTrue rfl
  | [], _ :: _ | _ :: _, [] => isFalse (by intro equal; injection equal)
  | left :: lefts, right :: rights =>
    match decideEq left right, decideEqItems lefts rights with
    | isTrue head, isTrue tail => isTrue (by rw [head, tail])
    | isFalse differ, _ => isFalse fun equal => differ (by injection equal)
    | _, isFalse differ => isFalse fun equal => differ (by injection equal)

/-- Objects are compared field by field. -/
def decideEqFields : (left right : List (String × Document)) → Decidable (left = right)
  | [], [] => isTrue rfl
  | [], _ :: _ | _ :: _, [] => isFalse (by intro equal; injection equal)
  | (leftName, left) :: lefts, (rightName, right) :: rights =>
    match decEq leftName rightName, decideEq left right, decideEqFields lefts rights with
    | isTrue name, isTrue head, isTrue tail => isTrue (by rw [name, head, tail])
    | isFalse differ, _, _ =>
      isFalse fun equal => differ (by injection equal with pair _; injection pair)
    | _, isFalse differ, _ =>
      isFalse fun equal => differ (by injection equal with pair _; injection pair)
    | _, _, isFalse differ => isFalse fun equal => differ (by injection equal)

end

instance : DecidableEq Document := decideEq

/-- The integer with a value. -/
def integer (value : Int) : Document :=
  .number (.integer value)

/-- A text, or null where there is none. -/
def optionalText : Option String → Document
  | some value => .text value
  | none => .null

/-- An object from named documents in any order. -/
def ofFields (fields : List (String × Document)) : Document :=
  .object (KeyedList.ofList fields)

/-- The fields of an object; other documents have none. -/
def fields? : Document → Option (List (String × Document))
  | .object fields => some fields
  | _ => none

/-- A field of an object; other documents have no fields. -/
def field? (name : String) : Document → Option Document
  | .object fields => KeyedList.get? name fields
  | _ => none

/-- The text that a document consists of. -/
def text? : Document → Option String
  | .text value => some value
  | _ => none

/-- A field of an object that is a text. -/
def textField? (name : String) (document : Document) : Option String :=
  (document.field? name).bind text?

/-- Whether a document is an object. -/
def isObject (document : Document) : Bool :=
  document.fields?.isSome

/-- Lays a newer document over an older one: the fields of the newer object win
and the other fields stay. Where either is not an object the newer replaces it. -/
def overlay (older newer : Document) : Document :=
  match older, newer with
  | .object present, .object incoming => .object (KeyedList.insertAll incoming present)
  | _, _ => newer

/-- Sets a field of an object; other documents stay as they are. -/
def setField (document : Document) (name : String) (value : Document) : Document :=
  match document with
  | .object fields => .object (KeyedList.insert name value fields)
  | other => other

/-- Sets a field of an object unless the object already has it. -/
def setFieldIfAbsent (document : Document) (name : String) (value : Document) : Document :=
  if (document.field? name).isSome then document else document.setField name value

end Document

end OfflineSync
