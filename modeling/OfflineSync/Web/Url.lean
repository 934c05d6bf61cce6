import OfflineSync.Web.Host
import OfflineSync.Web.Path

/-!
# Addresses

A `Url` has a scheme and a path, and may have an `Authority`, a query and a fragment. Addresses are
read as browsers read them, `Url.read`, without a base that could complete a partial one, and are
kept in normal form. `popEmptySegment` and `pushSegment` edit the path of one.
-/

namespace OfflineSync

/-- The part of an address that names a server. -/
structure Authority where
  /-- User name and password, escaped; empty where there are none. -/
  userInfo : List Char
  host : List Char
  portNumber : Option Nat
  deriving DecidableEq, Repr

/-- An address in normal form. -/
structure Url where
  scheme : String
  authority : Option Authority
  /-- Whether a dot keeps a path with two leading slashes from being read as an
  authority. -/
  guarded : Bool
  path : List Char
  query : Option (List Char)
  fragment : Option (List Char)
  deriving DecidableEq, Repr

namespace Authority

/-- The text of an authority. -/
def chars (authority : Authority) : List Char :=
  (if authority.userInfo.isEmpty then [] else authority.userInfo ++ ['@']) ++ authority.host ++
    (match authority.portNumber with
      | some number => ':' :: Nat.toDigits 10 number
      | none => [])

end Authority

namespace Url

/-- The kind of an address's scheme. -/
def kind (url : Url) : SchemeKind :=
  .ofScheme url.scheme

/-- The text of an address up to its path. -/
def originChars (url : Url) : List Char :=
  url.scheme.toList ++ ':' ::
    ((match url.authority with
      | some authority => '/' :: '/' :: authority.chars
      | none => []) ++ if url.guarded then ['/', '.'] else [])

/-- The path of an address with its query. -/
def targetChars (url : Url) : List Char :=
  url.path ++ match url.query with
    | some query => '?' :: query
    | none => []

/-- The text of an address. -/
def chars (url : Url) : List Char :=
  url.originChars ++ url.targetChars ++ match url.fragment with
    | some fragment => '#' :: fragment
    | none => []

/-- The text of an address. -/
def render (url : Url) : String :=
  String.ofList url.chars

/-- Whether nothing can be appended to the path of an address. -/
def isOpaque (url : Url) : Bool :=
  url.authority.isNone && !url.guarded && url.path.head? != some '/'

/-- The characters that are escaped in user information. -/
def isEscapedInUserInfo (c : Char) : Bool :=
  UrlPath.isEscaped c || ['/', ':', ';', '=', '@', '[', '\\', ']', '^', '|'].contains c

/-- The characters that are escaped in a query. -/
def isEscapedInQuery (kind : SchemeKind) (c : Char) : Bool :=
  Percent.isControl c || [' ', '"', '#', '<', '>'].contains c || (kind.isSpecial && c == '\x27')

/-- The characters that are escaped in a fragment. -/
def isEscapedInFragment (c : Char) : Bool :=
  Percent.isControl c || [' ', '"', '<', '>', '\x60'].contains c

/-- Tabs and line ends are dropped wherever they stand. -/
def dropBreaks (text : List Char) : List Char :=
  text.filter fun c => !UrlPath.isBreak c

/-- The text behind a number of characters, tabs and line ends not counted. -/
def dropCounted : Nat → List Char → List Char
  | 0, text => text
  | _, [] => []
  | count + 1, c :: rest =>
    if UrlPath.isBreak c then dropCounted (count + 1) rest else dropCounted count rest

/-- A text without control characters and spaces at its ends. -/
def trim (text : List Char) : List Char :=
  let blank (c : Char) : Bool := c.toNat ≤ 0x20
  ((text.dropWhile blank).reverse.dropWhile blank).reverse

/-- The scheme at the front of a text, in lower case, and the text behind its
colon. -/
def readScheme (text : List Char) : Option (String × List Char) :=
  let isPart (c : Char) : Bool := c.isAlphanum || c == '+' || c == '-' || c == '.'
  let scheme := text.takeWhile isPart
  match scheme, text.dropWhile isPart with
  | first :: _, ':' :: rest =>
    if first.isAlpha then some (String.ofList (scheme.map Char.toLower), rest) else none
  | _, _ => none

/-- The number that the servers of a scheme listen on unless another is given. -/
def defaultPort (scheme : String) : Option Nat :=
  if scheme == "http" || scheme == "ws" then some 80
  else if scheme == "https" || scheme == "wss" then some 443
  else if scheme == "ftp" then some 21
  else none

/-- Whether a character ends an authority. -/
def endsAuthority (kind : SchemeKind) (c : Char) : Bool :=
  c == '/' || c == '?' || c == '#' || (kind.isSpecial && c == '\\')

/-- User name and password in normal form; an empty password is dropped. -/
def userInfoOf (text : List Char) : List Char :=
  let name := text.takeWhile (· != ':')
  let password := (text.dropWhile (· != ':')).tail
  Percent.encode isEscapedInUserInfo name ++
    if password.isEmpty then [] else ':' :: Percent.encode isEscapedInUserInfo password

/-- A text cut at its last occurrence of a character. -/
def cutAtLast (mark : Char) (text : List Char) : Option (List Char × List Char) :=
  if text.contains mark then
    let after := (text.reverse.takeWhile (· != mark)).reverse
    some (text.take (text.length - after.length - 1), after)
  else none

/-- The length of the host at the front of a text: up to the first colon outside
of brackets. -/
def hostLength (inBrackets : Bool) : List Char → Nat
  | [] => 0
  | c :: rest =>
    if c = ':' ∧ ¬ inBrackets then 0
    else hostLength (if c = '[' then true else if c = ']' then false else inBrackets) rest + 1

/-- The number behind a host; the one that the scheme implies is left out. -/
def readPort (scheme : String) (text : List Char) : Except UrlError (Option Nat) :=
  let value := Nat.ofDigitChars 10 text 0
  if ¬ text.all Char.isDigit ∨ 65535 < value then .error .invalidPort
  else if text.isEmpty ∨ defaultPort scheme = some value then .ok none
  else .ok (some value)

/-- The authority that a text denotes, and what is left of the text: a backslash
behind the port belongs to the path. `ends` says whether the address ends with the
text. -/
def readAuthority (scheme : String) (kind : SchemeKind) (text : List Char) (ends : Bool) :
    Except UrlError (Authority × List Char) := do
  let (info, server) := (cutAtLast '@' text).getD ([], text)
  let userInfo := userInfoOf info
  if text = ['@'] ∧ ¬ ends then throw .emptyHost
  let host := server.take (hostLength false server)
  let behind := server.drop host.length
  if kind = .special ∧ host.isEmpty then throw .emptyHost
  let normal ← if kind = .special then Host.readSpecial host else Host.readOpaque host
  if normal.isEmpty ∧ (¬ behind.isEmpty ∨ ¬ userInfo.isEmpty) then throw .emptyHost
  let portNumber ← readPort scheme (behind.tail.takeWhile (· != '\\'))
  return (⟨userInfo, normal, portNumber⟩, behind.tail.dropWhile (· != '\\'))

/-- The query and the fragment at the front of a text. -/
def readTail (kind : SchemeKind) (text : List Char) : Option (List Char) × Option (List Char) :=
  let fragmentOf (text : List Char) : Option (List Char) :=
    match text with
    | '#' :: rest => some (Percent.encode isEscapedInFragment rest)
    | _ => none
  match text with
  | '?' :: rest =>
    (some (Percent.encode (isEscapedInQuery kind) (rest.takeWhile (· != '#'))),
      fragmentOf (rest.dropWhile (· != '#')))
  | text => (none, fragmentOf text)

/-- An address of given parts, with the query and the fragment at the front of a
text. -/
def withTail (scheme : String) (authority : Option Authority) (path text : List Char) : Url :=
  let (query, fragment) := readTail (.ofScheme scheme) text
  let guarded := authority.isNone && ['/', '/'].isPrefixOf path
  ⟨scheme, authority, guarded, path, query, fragment⟩

/-- The path behind an authority, and the text behind it. The addresses of a
special scheme have at least the root path. -/
def readPathAfterAuthority (kind : SchemeKind) (text : List Char) : List Char × List Char :=
  match text with
  | [] => if kind = .special then (['/'], []) else ([], [])
  | c :: rest =>
    if c = '/' ∨ (kind = .special ∧ c = '\\') then UrlPath.read .address kind ['/'] rest
    else if kind = .special ∨ c = '\\' then UrlPath.read .address kind ['/'] (c :: rest)
    else ([], c :: rest)

/-- Reads an address behind its two slashes, the server by `readAuthority`. -/
def readWithAuthority (scheme : String) (text : List Char) : Except UrlError Url := do
  let kind := SchemeKind.ofScheme scheme
  let rest := text.dropWhile fun c => !endsAuthority kind c
  let (authority, left) ← readAuthority scheme kind
    (text.takeWhile fun c => !endsAuthority kind c) rest.isEmpty
  let (path, rest) := readPathAfterAuthority kind (left ++ rest)
  return withTail scheme (some authority) path rest

/-- Reads an address that has neither slashes nor a special scheme. -/
def readOpaque (scheme : String) (text : List Char) : Url :=
  let ends (c : Char) : Bool := c == '?' || c == '#'
  withTail scheme none (Percent.encode Percent.isControl (text.takeWhile fun c => !ends c))
    (text.dropWhile fun c => !ends c)

/-- The host of a file address; the local host is left out. -/
def readFileHost (text : List Char) : Except UrlError (List Char) :=
  if text.isEmpty ∨ UrlPath.isDriveLetter text then .ok []
  else do
    let host ← Host.readSpecial text
    return if host = "localhost".toList then [] else host

/-- A file address with a host, whose path is read on from a beginning. A host in
front of a drive letter is dropped. -/
def fileAddress (host beginning text : List Char) : Url :=
  let reading := UrlPath.readBehind .address .file (!host.isEmpty) beginning text
  let host := if reading.keepsHost then host else []
  withTail "file" (some ⟨[], host, none⟩) reading.path (dropBreaks reading.rest)

/-- Reads a file address behind its scheme and two slashes. The text still has
its tabs and line ends. -/
def readFileWithHost (text : List Char) : Except UrlError Url := do
  let counted := dropBreaks text
  let name := counted.takeWhile fun c => !endsAuthority .file c
  let rest := dropCounted name.length text
  let host ← readFileHost name
  if UrlPath.isDriveLetter name then return fileAddress [] ['/'] text
  else if host.isEmpty then return fileAddress [] ['/'] rest
  else
    match counted.drop name.length with
    | '/' :: _ | '\\' :: _ => return fileAddress host ['/'] (dropCounted 1 rest)
    | _ => return fileAddress host ['/'] rest

/-- Reads a file address behind its scheme. The text still has its tabs and line
ends. -/
def readFile (text : List Char) : Except UrlError Url :=
  let isSlash (c : Char) : Bool := c == '/' || c == '\\'
  match dropBreaks text with
  | first :: second :: _ =>
    if isSlash first && isSlash second then readFileWithHost (dropCounted 2 text)
    else .ok (fileAddress [] (if isSlash first then [] else ['/']) text)
  | counted => .ok (fileAddress [] (if counted.any isSlash then [] else ['/']) text)

/-- The address that a text denotes. -/
def readChars (text : List Char) : Except UrlError Url :=
  let text := trim text
  let counted := dropBreaks text
  match readScheme counted with
  | none => .error .relativeWithoutBase
  | some (scheme, rest) =>
    match SchemeKind.ofScheme scheme with
    | .special =>
      readWithAuthority scheme (rest.dropWhile fun c => c == '/' || c == '\\')
    | .file => readFile (dropCounted (counted.length - rest.length) text)
    | .other =>
      match rest with
      | '/' :: '/' :: rest => readWithAuthority scheme rest
      | '/' :: rest =>
        let (path, behind) := UrlPath.read .address .other ['/'] rest
        .ok (withTail scheme none path behind)
      | rest => .ok (readOpaque scheme rest)

/-- The address that a text denotes, by `readChars`. -/
def read (text : String) : Except UrlError Url :=
  readChars text.toList

/-- An address without an empty segment at the end of its path. -/
def popEmptySegment (url : Url) : Url :=
  if url.path.tail.getLast? = some '/' then { url with path := url.path.dropLast } else url

/-- An address with a segment appended to its path, by `UrlPath.read`. The segments that mean a
directory are dropped. -/
def pushSegment (url : Url) (segment : String) : Url :=
  if segment == "." || segment == ".." then url
  else
    let path := if url.path.length = 1 then url.path else url.path ++ ['/']
    { url with path := (UrlPath.read .segment url.kind path segment.toList).1 }

/-- An address with another query, or with none. -/
def withQuery (url : Url) (query : Option String) : Url :=
  { url with
    query := query.map fun text =>
      Percent.encode (isEscapedInQuery url.kind) (dropBreaks text.toList) }

end Url

end OfflineSync
