import OfflineSync.Binary64.Shortest
import OfflineSync.Document.Basic

/-!
# The text of a document

`Document.render` writes a document without blanks, fields in their stored order. A string escapes
the quote, the backslash and the control characters, and nothing else, as `escapeChar` says.
-/

namespace OfflineSync

namespace Number

/-- Numbers are positional from a hundred-thousandth up to the sixteenth place. -/
def format : Binary64.Format := ⟨-5, 16, 'e'⟩

/-- The text of a number. -/
def chars : Number → List Char
  | .integer value =>
    let digits := Nat.toDigits 10 value.natAbs
    if value < 0 then '-' :: digits else digits
  | .float value => value.render format

/-- The text of a number as a string. -/
def render (number : Number) : String :=
  String.ofList number.chars

end Number

namespace Document

/-- A hexadecimal digit in lower case. -/
def hexDigit (value : Nat) : Char :=
  Nat.digitChar value

/-- A character as it stands inside a quoted string. -/
def escapeChar (c : Char) : List Char :=
  if c = '"' then ['\\', '"']
  else if c = '\\' then ['\\', '\\']
  else if c = '\x08' then ['\\', 'b']
  else if c = '\x0c' then ['\\', 'f']
  else if c = '\n' then ['\\', 'n']
  else if c = '\r' then ['\\', 'r']
  else if c = '\t' then ['\\', 't']
  else if c.toNat < 0x20 then
    ['\\', 'u', '0', '0', hexDigit (c.toNat / 16), hexDigit (c.toNat % 16)]
  else [c]

/-- A string in quotes. -/
def quote (value : String) : List Char :=
  '"' :: (value.toList.flatMap escapeChar ++ ['"'])

mutual

/-- The characters of a document's text. -/
def chars : Document → List Char
  | .null => ['n', 'u', 'l', 'l']
  | .boolean true => ['t', 'r', 'u', 'e']
  | .boolean false => ['f', 'a', 'l', 's', 'e']
  | .number value => value.chars
  | .text value => quote value
  | .array items => '[' :: (charsOfItems items ++ [']'])
  | .object fields => '\x7b' :: (charsOfFields fields ++ ['\x7d'])

/-- The items of an array, separated by commas. -/
def charsOfItems : List Document → List Char
  | [] => []
  | [item] => chars item
  | item :: rest => chars item ++ ',' :: charsOfItems rest

/-- The fields of an object, separated by commas. -/
def charsOfFields : List (String × Document) → List Char
  | [] => []
  | [(name, value)] => quote name ++ ':' :: chars value
  | (name, value) :: rest => quote name ++ ':' :: (chars value ++ ',' :: charsOfFields rest)

end

/-- The text of a document. -/
def render (document : Document) : String :=
  String.ofList document.chars

end Document

end OfflineSync
