/-!
# Names and limits

The rules that identifiers, table names and worker counts must satisfy before anything is done
with them: `EntityId.validate`, `TableName.validate` and `Parallelism.validate`, each of which
tells a `ValidationError`.
-/

namespace OfflineSync

/-- Why a value is refused before it is used. -/
inductive ValidationError where
  | required (field : String)
  | tooLong (field : String) (most : Nat)
  | outOfRange (field : String) (least most : Int)
  | invalidFormat (field : String) (reason : String)
  deriving DecidableEq, Repr

namespace ValidationError

/-- The text of an error. -/
def message : ValidationError → String
  | .required field => field ++ " is required"
  | .tooLong field most => field ++ " must be at most " ++ toString most ++ " characters"
  | .outOfRange field least most =>
    field ++ " must be between " ++ toString least ++ " and " ++ toString most
  | .invalidFormat field reason => field ++ " has invalid format: " ++ reason

end ValidationError

/-- A letter of the ASCII alphabet. -/
def isLetter (c : Char) : Bool :=
  ('a' ≤ c && c ≤ 'z') || ('A' ≤ c && c ≤ 'Z')

/-- An ASCII letter or digit. -/
def isLetterOrDigit (c : Char) : Bool :=
  isLetter c || ('0' ≤ c && c ≤ '9')

namespace EntityId

/-- The most characters of an entity's identifier. -/
def mostCharacters : Nat := 128

/-- A character that may follow the first of an identifier. -/
def mayFollow (c : Char) : Bool :=
  isLetterOrDigit c || c == '_' || c == '.' || c == '|' || c == ':' || c == '-'

/-- The form of an identifier: a letter or digit, then letters, digits and a few
marks. -/
def wellFormed : List Char → Bool
  | [] => false
  | first :: rest => isLetterOrDigit first && rest.all mayFollow

/-- Checks an identifier: present, short enough, well formed, in this order. -/
def validate (value : String) : Except ValidationError Unit :=
  if value.isEmpty then .error (.required "id")
  else if mostCharacters < value.length then .error (.tooLong "id" mostCharacters)
  else if wellFormed value.toList then .ok ()
  else
    .error (.invalidFormat "id"
      "must start with a letter or digit and contain only letters, digits, '_', '.', '|', ':' or '-'")

end EntityId

namespace TableName

/-- The most bytes of a table's name. -/
def mostBytes : Nat := 64

/-- The form of a table's name: a letter, then letters, digits and underscores. -/
def wellFormed : List Char → Bool
  | [] => false
  | first :: rest => isLetter first && rest.all fun c => isLetterOrDigit c || c == '_'

/-- Checks a table's name: present, short enough, well formed, in this order. -/
def validate (value : String) : Except ValidationError Unit :=
  if value.isEmpty then .error (.required "table_name")
  else if mostBytes < value.utf8ByteSize then .error (.tooLong "table_name" mostBytes)
  else if wellFormed value.toList then .ok ()
  else
    .error (.invalidFormat "table_name"
      "must start with a letter and contain only letters, digits or '_'")

end TableName

namespace Parallelism

/-- The most workers of one run. -/
def most : Nat := 8

/-- Whether a run may have a number of workers. -/
def allowed (workers : Nat) : Bool :=
  1 ≤ workers && workers ≤ most

/-- Checks a number of workers under the name it is configured by. -/
def validate (field : String) (workers : Nat) : Except ValidationError Unit :=
  if allowed workers then .ok () else .error (.outOfRange field 1 most)

end Parallelism

end OfflineSync
