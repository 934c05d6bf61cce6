import OfflineSync.Document.Reader

/-!
# Quoted texts of a settings file

A text stands in double quotes, where a backslash escapes, or in apostrophes, where nothing does.
Three quotes instead of one let a text have line breaks; a break right behind them, `dropBreak`, is
not part of it. `encode` chooses the plainest form that can hold a text.
-/

namespace OfflineSync.Toml.Quoted

/-- The mark around texts in which a backslash escapes. -/
def quote : Char := '"'

/-- The mark around texts in which nothing escapes. -/
def apostrophe : Char := '\x27'

/-- Control characters other than tab may not stand in a file, line ends apart. -/
def isForbidden (c : Char) : Bool :=
  (c.toNat < 0x20 && c != '\t') || c.toNat == 0x7f

/-- The character with a code, unless the code is of a surrogate or too large. -/
def charOfCode? (code : Nat) : Option Char :=
  if code.isValidChar then some (Char.ofNat code) else none

/-- The value of hexadecimal digits. -/
def hexCode? (digits : List Char) : Option Nat :=
  digits.foldlM (fun value c => (Document.hexValue? c).map (16 * value + ·)) 0

/-- How many hexadecimal digits follow an escape letter, for those that have any. -/
def codeLength? (letter : Char) : Option Nat :=
  if letter = 'u' then some 4 else if letter = 'U' then some 8 else none

/-- The character that a one-letter escape stands for. -/
def escaped? (letter : Char) : Option Char :=
  if letter = '/' then none else Document.escaped? letter

/-- The text without a line break at its front. -/
def dropBreak : List Char → Option (List Char)
  | '\n' :: rest => some rest
  | '\r' :: '\n' :: rest => some rest
  | _ => none

/-- Whether a character is a space or a tab. -/
def isBlank (c : Char) : Bool :=
  c == ' ' || c == '\t'

/-- The text without the blanks and line breaks at its front. -/
def dropBlankLines : List Char → List Char
  | ' ' :: rest | '\t' :: rest | '\n' :: rest | '\r' :: '\n' :: rest => dropBlankLines rest
  | text => text

/-- What follows a backslash that stands at the end of a line: the text behind
the blanks and breaks, of which there must be a break. -/
def dropFoldedBreak (text : List Char) : Option (List Char) :=
  (dropBreak (text.dropWhile isBlank)).map dropBlankLines

/-- The length of the run of a mark at the front of a text. -/
def runLength (mark : Char) (text : List Char) : Nat :=
  (text.takeWhile (· == mark)).length

/-- What a mark inside a text of several lines means, by the run that it begins:
fewer than three marks belong to the text, and of three or more the last three
end it. At most two marks stand before those. -/
inductive MarkRun where
  | inside
  | closing (marksBefore : Nat)
  | tooLong
  deriving DecidableEq, Repr

/-- The meaning of a run of marks. -/
def markRun (length : Nat) : MarkRun :=
  if length < 3 then .inside else if length ≤ 5 then .closing (length - 3) else .tooLong

/-- The characters of a text in marks and what follows it. Every step spends
`fuel`, of which the length of the input is enough. -/
def readBody (mark : Char) (multiline : Bool) (fuel : Nat) (text : List Char) :
    Option (List Char × List Char) :=
  match fuel, text with
  | 0, _ => none
  | _, [] => none
  | fuel + 1, c :: rest =>
    let more (read : List Char) (rest : List Char) : Option (List Char × List Char) :=
      (readBody mark multiline fuel rest).map fun (chars, rest) => (read ++ chars, rest)
    if c = mark then
      if ¬ multiline then some ([], rest)
      else
        match markRun (runLength mark text) with
        | .inside => more [mark] rest
        | .closing marksBefore =>
          some (List.replicate marksBefore mark, text.drop (marksBefore + 3))
        | .tooLong => none
    else if c = '\\' ∧ mark = quote then
      match rest with
      | [] => none
      | letter :: behind =>
        match codeLength? letter with
        | some length =>
          if behind.length < length then none
          else
            match (hexCode? (behind.take length)).bind charOfCode? with
            | some char => more [char] (behind.drop length)
            | none => none
        | none =>
          match escaped? letter with
          | some char => more [char] behind
          | none =>
            match dropFoldedBreak rest with
            | some behind => if multiline then more [] behind else none
            | none => none
    else if isForbidden c then
      match dropBreak text with
      | some rest => if multiline then more ['\n'] rest else none
      | none => none
    else more [c] rest

/-- Reads a text behind its opening mark, which must stand on one line. -/
def readLine (mark : Char) (text : List Char) : Option (List Char × List Char) :=
  readBody mark false (text.length + 1) text

/-- Reads a text behind its first mark. -/
def read (mark : Char) (text : List Char) : Option (List Char × List Char) :=
  if [mark, mark].isPrefixOf text then
    let text := text.drop 2
    readBody mark true (text.length + 1) ((dropBreak text).getD text)
  else readLine mark text

/-- The two lower-order digits of a code below 256, in upper case. -/
def hexDigits (code : Nat) : List Char :=
  [Nat.digitChar (code / 16), Nat.digitChar (code % 16)].map Char.toUpper

/-- A character as it stands in double quotes. -/
def escape (multiline : Bool) (c : Char) : List Char :=
  if c = '\x08' then ['\\', 'b']
  else if c = '\t' then ['\\', 't']
  else if c = '\n' then if multiline then [c] else ['\\', 'n']
  else if c = '\x0c' then ['\\', 'f']
  else if c = '\r' then ['\\', 'r']
  else if c = '\\' then ['\\', '\\']
  else if isForbidden c then ['\\', 'u', '0', '0'] ++ hexDigits c.toNat
  else [c]

/-- A text as it stands in double quotes, of which at most a number may stand in
a row; `run` counts those just written. -/
def escapeAll (multiline : Bool) (mostQuotes : Nat) (run : Nat) : List Char → List Char
  | [] => []
  | c :: rest =>
    if c = quote then
      if run < mostQuotes then c :: escapeAll multiline mostQuotes (run + 1) rest
      else '\\' :: c :: escapeAll multiline mostQuotes 0 rest
    else escape multiline c ++ escapeAll multiline mostQuotes 0 rest

/-- The longest run of a mark in a text; `run` counts those just passed. -/
def longestRun (mark : Char) (run : Nat) : List Char → Nat
  | [] => run
  | c :: rest =>
    if c = mark then longestRun mark (run + 1) rest else max run (longestRun mark 0 rest)

/-- A text between three marks on either side; a text of several lines starts on
a line of its own. -/
def inThree (mark : Char) (text body : List Char) : List Char :=
  [mark, mark, mark] ++ (if text.contains '\n' then ['\n'] else []) ++ body ++ [mark, mark, mark]

/-- The plainest form of a text: double quotes if nothing needs an escape, else
apostrophes, else three of the one or the other, else double quotes with
escapes. -/
def encode (text : List Char) : List Char :=
  let needsCodes := text.any fun c => isForbidden c && c != '\n'
  let hasBreak := text.contains '\n'
  let quotes := longestRun quote 0 text
  let apostrophes := longestRun apostrophe 0 text
  let escapes := text.contains '\\'
  if ¬ needsCodes ∧ ¬ escapes ∧ quotes = 0 ∧ ¬ hasBreak then
    quote :: (escapeAll false 0 0 text ++ [quote])
  else if ¬ needsCodes ∧ apostrophes = 0 ∧ ¬ hasBreak then apostrophe :: (text ++ [apostrophe])
  else if ¬ needsCodes ∧ ¬ escapes ∧ quotes ≤ 2 then
    inThree quote text (escapeAll true 2 0 text)
  else if ¬ needsCodes ∧ apostrophes ≤ 2 then inThree apostrophe text text
  else if hasBreak then inThree quote text (escapeAll true 2 0 text)
  else quote :: (escapeAll false 0 0 text ++ [quote])

end OfflineSync.Toml.Quoted
