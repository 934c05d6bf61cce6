import OfflineSync.Toml.Quoted
import OfflineSync.Toml.Scalar

/-!
# Reading a settings file

A file is read line by line. A `Line` holds nothing, a comment, a header or an entry; a value with
several lines of text or items goes on over its lines. Every reading function takes the input from
its front and gives back what it left; `read` puts the sections together.
-/

namespace OfflineSync.Toml

open Quoted (isBlank isForbidden dropBreak)

/-- A text without the spaces and tabs at its front. -/
def skipBlanks (text : List Char) : List Char :=
  text.dropWhile isBlank

/-- The text behind a comment's characters, up to the end of its line. -/
def skipComment (text : List Char) : List Char :=
  text.dropWhile fun c => !isForbidden c

/-- The text behind the end of a line, which blanks and a comment may precede. -/
def readLineEnd (text : List Char) : Option (List Char) :=
  let rest := match skipBlanks text with
    | '#' :: rest => skipComment rest
    | rest => rest
  if rest.isEmpty then some [] else dropBreak rest

/-- Whether a character may stand in a name without quotes. -/
def isNameChar (c : Char) : Bool :=
  c.isAlphanum || c == '_' || c == '-'

/-- One name, bare or quoted. -/
def readName (text : List Char) : Option (String × List Char) :=
  match text with
  | [] => none
  | c :: rest =>
    if c = Quoted.quote ∨ c = Quoted.apostrophe then
      (Quoted.readLine c rest).map fun (chars, rest) => (String.ofList chars, rest)
    else
      let name := text.takeWhile isNameChar
      if name.isEmpty then none
      else some (String.ofList name, text.dropWhile isNameChar)

/-- Names joined by points, blanks around them aside. -/
def readNames (fuel : Nat) (text : List Char) : Option (List String × List Char) :=
  match fuel with
  | 0 => none
  | fuel + 1 => do
    let (name, rest) ← readName (skipBlanks text)
    match skipBlanks rest with
    | '.' :: rest => do
      let (names, rest) ← readNames fuel rest
      return (name :: names, rest)
    | rest => return ([name], rest)

/-- Names and values may be nested less deep than this. -/
def depthLimit : Nat := 80

/-- A name with the names that lead to it. -/
def readPath (text : List Char) : Option (KeyPath × List Char) := do
  let (names, rest) ← readNames (text.length + 1) text
  if depthLimit ≤ names.length then none
  else
    match names.getLast? with
    | some name => return (⟨names.dropLast, name⟩, rest)
    | none => none

/-- The text behind blanks, line ends and comments. -/
def skipLines (fuel : Nat) (text : List Char) : Option (List Char) :=
  match fuel with
  | 0 => none
  | fuel + 1 =>
    match skipBlanks text with
    | '#' :: rest =>
      match dropBreak (skipComment rest) with
      | some rest => skipLines fuel rest
      | none => none
    | rest =>
      match dropBreak rest with
      | some rest => skipLines fuel rest
      | none => some rest

mutual

/-- The value at the front of a text. Every step spends `fuel`, of which a
multiple of the text's length is enough; `depth` levels of nesting remain. -/
def readValue (fuel depth : Nat) (text : List Char) : Option (Value × List Char) :=
  match fuel with
  | 0 => none
  | fuel + 1 =>
    match text with
    | [] => none
    | c :: rest =>
      if c = Quoted.quote ∨ c = Quoted.apostrophe then
        (Quoted.read c rest).map fun (chars, rest) => (.text (String.ofList chars), rest)
      else if c = '[' then
        if depth ≤ 1 then none
        else (readItems fuel (depth - 1) rest).map fun (items, rest) => (.array items, rest)
      else if c = '\x7b' then
        if depth ≤ 1 then none
        else
          match skipBlanks rest with
          | '\x7d' :: rest => (inlineTable []).map fun table => (table, rest)
          | rest => do
            let (entries, rest) ← readFields fuel (depth - 1) rest
            return (← inlineTable entries, rest)
      else Scalar.read text

/-- The items of an array and the bracket that closes it. A comma may stand
behind the last item, and lines may end anywhere. -/
def readItems (fuel depth : Nat) (text : List Char) : Option (List Value × List Char) :=
  match fuel with
  | 0 => none
  | fuel + 1 =>
    match skipLines fuel text with
    | none => none
    | some (']' :: rest) => some ([], rest)
    | some text => do
      let (item, rest) ← readValue fuel depth text
      match skipLines fuel rest with
      | some (']' :: rest) => return ([item], rest)
      | some (',' :: rest) => do
        let (items, rest) ← readItems fuel depth rest
        return (item :: items, rest)
      | _ => none

/-- One or more entries of a table in braces, and the brace that closes it. -/
def readFields (fuel depth : Nat) (text : List Char) : Option (List Entry × List Char) :=
  match fuel with
  | 0 => none
  | fuel + 1 => do
    let (path, rest) ← readPath text
    match rest with
    | '=' :: rest => do
      let (value, rest) ← readValue fuel depth (skipBlanks rest)
      match skipBlanks rest with
      | '\x7d' :: rest => return ([⟨path, value⟩], rest)
      | ',' :: rest => do
        let (entries, rest) ← readFields fuel depth rest
        return (⟨path, value⟩ :: entries, rest)
      | _ => none
    | _ => none

end

/-- What a line of a file holds, apart from blanks and comments. -/
inductive Line where
  | empty
  | header (header : Header)
  | entry (entry : Entry)
  deriving Repr

/-- The header behind its first bracket. -/
def readHeader (text : List Char) : Option (Header × List Char) := do
  let (repeated, text) := match text with
    | '[' :: rest => (true, rest)
    | text => (false, text)
  let (path, rest) ← readPath text
  match repeated, rest with
  | true, ']' :: ']' :: rest => return (⟨path, true⟩, rest)
  | false, ']' :: rest => return (⟨path, false⟩, rest)
  | _, _ => none

/-- The entry at the front of a text. -/
def readEntry (text : List Char) : Option (Entry × List Char) := do
  let (path, rest) ← readPath text
  match rest with
  | '=' :: rest => do
    let (value, rest) ← readValue (4 * text.length + 4) depthLimit (skipBlanks rest)
    return (⟨path, value⟩, rest)
  | _ => none

/-- A line, with the text of the lines behind it. -/
def readLine (text : List Char) : Option (Line × List Char) := do
  match skipBlanks text with
  | [] => return (.empty, [])
  | '[' :: rest =>
    let (header, rest) ← readHeader rest
    return (.header header, ← readLineEnd rest)
  | c :: rest =>
    if c = '#' ∨ isForbidden c then return (.empty, ← readLineEnd (c :: rest))
    else
      let (entry, rest) ← readEntry (c :: rest)
      return (.entry entry, ← readLineEnd rest)

/-- The lines of a file. -/
def readLines (fuel : Nat) (text : List Char) : Option (List Line) :=
  match fuel, text with
  | _, [] => some []
  | 0, _ => none
  | fuel + 1, text => do
    let (line, rest) ← readLine text
    return line :: (← readLines fuel rest)

/-- The sections that lines make up. The first holds the entries in front of all
headers. -/
def sectionsOf (lines : List Line) : List Section :=
  let add (line : Line) (behind : List Entry × List Section) : List Entry × List Section :=
    match line with
    | .empty => behind
    | .entry entry => (entry :: behind.1, behind.2)
    | .header header => ([], ⟨some header, behind.1⟩ :: behind.2)
  let (entries, sections) := lines.foldr add ([], [])
  ⟨none, entries⟩ :: sections

/-- The mark that a file may start with to tell its encoding. -/
def byteOrderMark : Char := '\ufeff'

/-- The table that a file holds. -/
def read (text : String) : Option Fields := do
  let chars := match text.toList with
    | c :: rest => if c = byteOrderMark then rest else c :: rest
    | [] => []
  assemble (sectionsOf (← readLines (chars.length + 1) chars))

end OfflineSync.Toml
