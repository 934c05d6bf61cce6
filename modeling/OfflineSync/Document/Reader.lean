import OfflineSync.Document.Numeral

/-!
# Reading documents

`Document.read` accepts exactly the strict JSON grammar: no blanks but those of `skipBlanks`
(space, tab and line ends), no leading zeros, no unpaired surrogate escapes, no raw control
characters in strings, and nothing behind the value. Arrays and objects may be nested as deep as
`depthLimit` says. Of two fields with one name the later one stays.
-/

namespace OfflineSync

namespace Document

/-- One piece of a quoted string: a character, or a UTF-16 unit written by its
four hexadecimal digits. -/
inductive Piece where
  | plain (c : Char)
  | unit (value : Nat)
  deriving DecidableEq, Repr

/-- The value of a hexadecimal digit of either case. -/
def hexValue? (c : Char) : Option Nat :=
  if c.isDigit then some (c.toNat - '0'.toNat)
  else if 'a' ≤ c ∧ c ≤ 'f' then some (c.toNat - 'a'.toNat + 10)
  else if 'A' ≤ c ∧ c ≤ 'F' then some (c.toNat - 'A'.toNat + 10)
  else none

/-- The value of four hexadecimal digits. -/
def unit? (a b c d : Char) : Option Nat := do
  return (((← hexValue? a) * 16 + (← hexValue? b)) * 16 + (← hexValue? c)) * 16 + (← hexValue? d)

/-- The character that a one-letter escape stands for. -/
def escaped? (c : Char) : Option Char :=
  if c = '"' ∨ c = '\\' ∨ c = '/' then some c
  else if c = 'b' then some '\x08'
  else if c = 'f' then some '\x0c'
  else if c = 'n' then some '\n'
  else if c = 'r' then some '\r'
  else if c = 't' then some '\t'
  else none

/-- The pieces up to the closing quote, and what follows it. -/
def readPieces : List Char → Option (List Piece × List Char)
  | [] => none
  | c :: rest =>
    if c = '"' then some ([], rest)
    else if c = '\\' then
      match rest with
      | [] => none
      | 'u' :: a :: b :: c :: d :: rest =>
        match unit? a b c d, readPieces rest with
        | some value, some (pieces, rest) => some (.unit value :: pieces, rest)
        | _, _ => none
      | letter :: rest =>
        match escaped? letter, readPieces rest with
        | some c, some (pieces, rest) => some (.plain c :: pieces, rest)
        | _, _ => none
    else if c.toNat < 0x20 then none
    else (readPieces rest).map fun (pieces, rest) => (.plain c :: pieces, rest)

/-- The characters of pieces. A high surrogate must be followed by a low one,
and a low one must follow a high one. -/
def joinPieces : List Piece → Option (List Char)
  | [] => some []
  | .plain c :: rest => (joinPieces rest).map (c :: ·)
  | .unit value :: rest =>
    if 0xD800 ≤ value ∧ value < 0xDC00 then
      match rest with
      | .unit low :: rest =>
        if 0xDC00 ≤ low ∧ low < 0xE000 then
          let code := 0x10000 + (value - 0xD800) * 0x400 + (low - 0xDC00)
          (joinPieces rest).map (Char.ofNat code :: ·)
        else none
      | _ => none
    else if 0xDC00 ≤ value ∧ value < 0xE000 then none
    else (joinPieces rest).map (Char.ofNat value :: ·)

/-- The rest of a string behind its opening quote. -/
def readString (text : List Char) : Option (String × List Char) := do
  let (pieces, rest) ← readPieces text
  let chars ← joinPieces pieces
  return (String.ofList chars, rest)

/-- A text without the blanks at its front. -/
def skipBlanks (text : List Char) : List Char :=
  text.dropWhile fun c => c = ' ' || c = '\n' || c = '\t' || c = '\r'

/-- A text behind a word that it must start with. -/
def readWord (word text : List Char) : Option (List Char) :=
  if word.isPrefixOf text then some (text.drop word.length) else none

/-- Arrays and objects nested this deep are refused. -/
def depthLimit : Nat := 128

mutual

/-- The document at the front of a text. Every step spends `fuel`, of which the
text's length is enough; `depth` levels of nesting remain. -/
def readValue (fuel depth : Nat) (text : List Char) : Option (Document × List Char) :=
  match fuel with
  | 0 => none
  | fuel + 1 =>
    match skipBlanks text with
    | '"' :: rest => (readString rest).map fun (value, rest) => (.text value, rest)
    | '[' :: rest =>
      if depth ≤ 1 then none
      else match skipBlanks rest with
        | ']' :: rest => some (.array [], rest)
        | rest => (readItems fuel (depth - 1) rest).map fun (items, rest) => (.array items, rest)
    | '\x7b' :: rest =>
      if depth ≤ 1 then none
      else match skipBlanks rest with
        | '\x7d' :: rest => some (.object [], rest)
        | rest =>
          (readFields fuel (depth - 1) rest).map fun (fields, rest) => (ofFields fields, rest)
    | 'n' :: rest => (readWord ['u', 'l', 'l'] rest).map fun rest => (.null, rest)
    | 't' :: rest => (readWord ['r', 'u', 'e'] rest).map fun rest => (.boolean true, rest)
    | 'f' :: rest => (readWord ['a', 'l', 's', 'e'] rest).map fun rest => (.boolean false, rest)
    | text => (Number.read text).map fun (value, rest) => (.number value, rest)

/-- One or more items and the bracket that closes them. -/
def readItems (fuel depth : Nat) (text : List Char) : Option (List Document × List Char) :=
  match fuel with
  | 0 => none
  | fuel + 1 =>
    match readValue fuel depth text with
    | none => none
    | some (item, rest) =>
      match skipBlanks rest with
      | ']' :: rest => some ([item], rest)
      | ',' :: rest => (readItems fuel depth rest).map fun (items, rest) => (item :: items, rest)
      | _ => none

/-- One or more fields, in the order written, and the brace that closes them. -/
def readFields (fuel depth : Nat) (text : List Char) :
    Option (List (String × Document) × List Char) :=
  match fuel with
  | 0 => none
  | fuel + 1 =>
    match skipBlanks text with
    | '"' :: rest =>
      match readString rest with
      | none => none
      | some (name, rest) =>
        match skipBlanks rest with
        | ':' :: rest =>
          match readValue fuel depth rest with
          | none => none
          | some (value, rest) =>
            match skipBlanks rest with
            | '\x7d' :: rest => some ([(name, value)], rest)
            | ',' :: rest =>
              (readFields fuel depth rest).map fun (fields, rest) => ((name, value) :: fields, rest)
            | _ => none
        | _ => none
    | _ => none

end

/-- The document that a text consists of, blanks around it aside. -/
def readChars (text : List Char) : Option Document :=
  match readValue (2 * text.length + 2) depthLimit text with
  | some (document, rest) => if (skipBlanks rest).isEmpty then some document else none
  | none => none

/-- The document that a text consists of. -/
def read (text : String) : Option Document :=
  readChars text.toList

end Document

end OfflineSync
