import OfflineSync.KeyedList

/-!
# Tables of a settings file

A settings file in the TOML format holds a table of values. The file is a list of
sections, each with a header that names its table and with entries; a name may
lead through several tables. `assemble` joins the sections to one table, and
refuses a file that gives a name or a table twice.
-/

namespace OfflineSync.Toml

/-- How a table came to be, which decides whether it may be extended. -/
inductive TableOrigin where
  /-- Opened by a header of its own. -/
  | header
  /-- Passed through by the header of a table within it. -/
  | implied
  /-- Passed through by the name of an entry. -/
  | dotted
  /-- Written in braces, and complete. -/
  | braces
  deriving DecidableEq, Repr

/-- A value of a settings file. Numbers with a fraction and times are kept
without their value, because no setting is one. -/
inductive Value where
  | text (value : String)
  | integer (value : Int)
  | boolean (value : Bool)
  | fractional
  | time
  | array (items : List Value)
  | table (origin : TableOrigin) (fields : List (String × Value))
  /-- The tables under a repeated header, in the order of the file. -/
  | tables (items : List (List (String × Value)))
  deriving Repr

/-- The values of a table under their names. -/
abbrev Fields := KeyedList String Value

/-- The name of a value, with the names of the tables that lead to it. -/
structure KeyPath where
  tables : List String
  name : String
  deriving DecidableEq, Repr

/-- A named value of a section. -/
structure Entry where
  path : KeyPath
  value : Value
  deriving Repr

/-- What opens a section. -/
structure Header where
  path : KeyPath
  /-- Whether each such header opens another table under the same name. -/
  repeated : Bool
  deriving DecidableEq, Repr

/-- A header with its entries. The entries in front of all headers have none. -/
structure Section where
  header : Option Header
  entries : List Entry
  deriving Repr

/-- Changes the table that names lead to, from a table of the given origin.
Tables that are missing are made with the origin `passing`. An entry may not lead
through a table that a header opened, and nothing leads through a table in
braces. -/
def alter (passing : TableOrigin) (change : TableOrigin → Fields → Option Fields)
    (origin : TableOrigin) (fields : Fields) : List String → Option Fields
  | [] => change origin fields
  | name :: names =>
    match KeyedList.get? name fields with
    | none => do
      let inner ← alter passing change passing [] names
      return KeyedList.insert name (.table passing inner) fields
    | some (.table innerOrigin inner) =>
      if innerOrigin = .braces ∨ (passing = .dotted ∧ innerOrigin = .header) then none
      else do
        let inner ← alter passing change innerOrigin inner names
        return KeyedList.insert name (.table innerOrigin inner) fields
    | some (.tables items) =>
      match items.getLast? with
      | none => none
      | some last => do
        let last ← alter passing change .header last names
        return KeyedList.insert name (.tables (items.dropLast ++ [last])) fields
    | some _ => none

/-- Adds an entry to a table. The name must be free, and an entry that leads
through tables must end in one that entries made. -/
def addEntry (fields : Fields) (entry : Entry) : Option Fields :=
  let names := entry.path.tables
  let place (origin : TableOrigin) (inner : Fields) : Option Fields :=
    if ¬ names.isEmpty ∧ origin ≠ .dotted then none
    else if KeyedList.contains entry.path.name inner then none
    else some (KeyedList.insert entry.path.name entry.value inner)
  alter .dotted place .header fields names

/-- Adds entries to a table, in their order, each by `addEntry`. -/
def addEntries (fields : Fields) (entries : List Entry) : Option Fields :=
  entries.foldlM addEntry fields

/-- Adds a section to a file. A header opens a table that is new, or that was
only passed through by other headers. -/
def addSection (file : Fields) (part : Section) : Option Fields :=
  match part.header with
  | none => addEntries file part.entries
  | some header =>
    let name := header.path.name
    let place (_ : TableOrigin) (outer : Fields) : Option Fields :=
      match KeyedList.get? name outer, header.repeated with
      | none, false => do
        return KeyedList.insert name (.table .header (← addEntries [] part.entries)) outer
      | some (.table .implied inner), false => do
        return KeyedList.insert name (.table .header (← addEntries inner part.entries)) outer
      | none, true => do
        return KeyedList.insert name (.tables [← addEntries [] part.entries]) outer
      | some (.tables items), true => do
        return KeyedList.insert name (.tables (items ++ [← addEntries [] part.entries])) outer
      | some _, _ => none
    alter .implied place .header file header.path.tables

/-- The table that the sections of a file make up, by `addSection`. -/
def assemble (parts : List Section) : Option Fields :=
  parts.foldlM addSection []

/-- A table in braces. -/
def inlineTable (entries : List Entry) : Option Value := do
  return .table .braces (← addEntries [] entries)

end OfflineSync.Toml
