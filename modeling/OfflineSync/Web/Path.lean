import OfflineSync.Web.Percent

/-!
# Paths of addresses

A path is read segment by segment. A segment of one dot is dropped, and one of two dots drops the
segment before it, `shorten`. The paths of file addresses keep a leading drive letter, and behind a
host a leading drive letter takes the place of the host. Tabs and line ends are dropped, but they
end a leading drive letter.
-/

namespace OfflineSync

/-- How the addresses of a scheme are read. -/
inductive SchemeKind where
  /-- A scheme of the web, whose addresses have a host and a path. -/
  | special
  | file
  | other
  deriving DecidableEq, Repr

namespace SchemeKind

/-- The kind of a scheme. -/
def ofScheme (scheme : String) : SchemeKind :=
  if ["http", "https", "ws", "wss", "ftp"].contains scheme then .special
  else if scheme == "file" then .file
  else .other

/-- Whether a backslash separates segments just as a slash does. -/
def isSpecial (kind : SchemeKind) : Bool :=
  kind != .other

end SchemeKind

/-- What a path is read from. -/
inductive PathSource where
  /-- The text of an address; separators and the start of a query count. -/
  | address
  /-- A single segment, in which every character counts for itself. -/
  | segment
  deriving DecidableEq, Repr

namespace UrlPath

/-- The characters that are escaped in a path. -/
def isEscaped (c : Char) : Bool :=
  Percent.isControl c || [' ', '"', '<', '>', '\x60', '#', '?', '\x7b', '\x7d'].contains c

/-- The characters that are escaped in a single segment. -/
def isEscapedInSegment (kind : SchemeKind) (c : Char) : Bool :=
  isEscaped c || c == '/' || c == '%' || (kind.isSpecial && c == '\\')

/-- One character of a path, escaped where its source asks for it. -/
def encodeChar (source : PathSource) (kind : SchemeKind) (c : Char) : List Char :=
  match source with
  | .address => Percent.encode isEscaped [c]
  | .segment => Percent.encode (isEscapedInSegment kind) [c]

/-- Whether a text is a letter and a colon or bar. -/
def isDriveLetter : List Char → Bool
  | [letter, mark] => letter.isAlpha && (mark == ':' || mark == '|')
  | _ => false

/-- Whether a text is a letter and a colon. -/
def isNormalDriveLetter (text : List Char) : Bool :=
  isDriveLetter text && text.getLast? == some ':'

/-- Whether a path starts with a segment that is a drive letter. -/
def startsWithDriveLetter : List Char → Bool
  | '/' :: letter :: mark :: rest =>
    isDriveLetter [letter, mark] &&
      (rest.isEmpty || ['/', '\\', '?', '#'].contains (rest.headD ' '))
  | _ => false

/-- Whether a segment means the directory itself. -/
def isSingleDot (segment : List Char) : Bool :=
  let plain := segment.map Char.toLower
  plain == ['.'] || plain == ['%', '2', 'e']

/-- Whether a segment means the directory above. -/
def isDoubleDot (segment : List Char) : Bool :=
  let dot := ['.']
  let escaped := ['%', '2', 'e']
  [dot ++ dot, escaped ++ escaped, dot ++ escaped, escaped ++ dot].contains (segment.map Char.toLower)

/-- A path up to and including its last slash. -/
def throughLastSlash (path : List Char) : List Char :=
  (path.reverse.dropWhile (· != '/')).reverse

/-- A path without its last slash, unless that slash belongs to the root or
follows a drive letter. -/
def dropLastSlash (path : List Char) : List Char :=
  if path.getLast? ≠ some '/' then path
  else
    let before := path.dropLast
    let tail := path.drop ((throughLastSlash before).length - 1)
    if before.contains '/' ∧ ¬ startsWithDriveLetter tail then before else path

/-- A path without its last segment: it is cut by `throughLastSlash`. -/
def shorten (kind : SchemeKind) (path : List Char) : List Char :=
  if kind = .file ∧ isNormalDriveLetter path then path
  else
    let kept := throughLastSlash path
    if kind = .file ∧ isNormalDriveLetter (path.drop kept.length) then path else kept

/-- A path with a slash at its end. -/
def withSlash (path : List Char) : List Char :=
  if path.getLast? = some '/' then path else path ++ ['/']

/-- A path that is being read. -/
structure Progress where
  /-- What was read, in normal form. -/
  path : List Char
  /-- Where the last segment starts. -/
  start : Nat
  /-- Whether a host stands in front of the path. -/
  hosted : Bool
  /-- Whether a dropped character precedes the text that is left. -/
  broken : Bool
  deriving DecidableEq, Repr

/-- The path after its last segment is complete; `slash` says whether a separator
follows the segment. -/
def finishSegment (kind : SchemeKind) (slash : Bool) (progress : Progress) : Progress :=
  let before := progress.path.take progress.start
  let segment := progress.path.drop progress.start
  let mark := if slash then ['/'] else []
  let toNext (path : List Char) (hosted : Bool) : Progress := ⟨path, path.length, hosted, false⟩
  if isDoubleDot segment then
    let shortened := shorten kind (dropLastSlash before)
    toNext (if slash then withSlash shortened else shortened) progress.hosted
  else if isSingleDot segment then toNext (withSlash before) progress.hosted
  else if progress.hosted ∧ kind = .file ∧ progress.start = 1 ∧ isDriveLetter segment then
    toNext (before ++ segment.take 1 ++ ':' :: mark) false
  else toNext (before ++ segment ++ mark) progress.hosted

/-- Whether a character separates segments. -/
def isSeparator (source : PathSource) (kind : SchemeKind) (c : Char) : Bool :=
  source == .address && (c == '/' || (kind.isSpecial && c == '\\'))

/-- Whether a character ends the path. -/
def endsPath (source : PathSource) (c : Char) : Bool :=
  source == .address && (c == '?' || c == '#')

/-- The path with one more character of its last segment. -/
def push (source : PathSource) (kind : SchemeKind) (progress : Progress) (c : Char) : Progress :=
  let endsDrive := kind = .file ∧ progress.broken ∧ isNormalDriveLetter progress.path.tail
  let path := if endsDrive then progress.path ++ ['/'] else progress.path
  { progress with path := path ++ encodeChar source kind c, broken := false }

/-- Whether a character is dropped wherever it stands. -/
def isBreak (c : Char) : Bool :=
  c == '\t' || c == '\n' || c == '\r'

/-- Reads on from the beginning of a path, each character by `push`. The answer has the text behind
the path. -/
def readOn (source : PathSource) (kind : SchemeKind) (progress : Progress) :
    List Char → Progress × List Char
  | [] => (finishSegment kind false progress, [])
  | c :: rest =>
    if isBreak c then readOn source kind { progress with broken := true } rest
    else if isSeparator source kind c then
      readOn source kind (finishSegment kind true progress) rest
    else if endsPath source c then (finishSegment kind false progress, c :: rest)
    else readOn source kind (push source kind progress c) rest

/-- A path that was read to its end. -/
structure Reading where
  path : List Char
  /-- Whether a host in front of the path stays. -/
  keepsHost : Bool
  /-- The text behind the path. -/
  rest : List Char
  deriving DecidableEq, Repr

/-- Reads on from the beginning of a path, in front of which there may be a host.
File paths have one slash in front. -/
def readBehind (source : PathSource) (kind : SchemeKind) (hosted : Bool)
    (beginning text : List Char) : Reading :=
  let (progress, rest) := readOn source kind ⟨beginning, beginning.length, hosted, false⟩ text
  let path :=
    if kind = .file then '/' :: progress.path.dropWhile (· == '/') else progress.path
  ⟨path, progress.hosted, rest⟩

/-- Reads on from the beginning of a path without regard to a host. -/
def read (source : PathSource) (kind : SchemeKind) (beginning text : List Char) :
    List Char × List Char :=
  let reading := readBehind source kind false beginning text
  (reading.path, reading.rest)

end UrlPath

end OfflineSync
