import OfflineSync.Document.Printer
import OfflineSync.Document.Reader
import OfflineSync.Remote.Address
import OfflineSync.Remote.EntityTag
import OfflineSync.Text.Blank

/-!
# Requests and responses on the wire

A request is sent to its address with the tag of the version it expects, and with its document as
JSON, as a `WireRequest`. A response is read back by `receive` from its status, its tag and the
bytes of its body, which `decodeLossy` reads. The network itself is a function, `Network`, which
may find no server.
-/

namespace OfflineSync.Http

/-- A request as it goes over the wire. -/
structure WireRequest where
  method : Method
  url : Url
  ifMatch : Option String
  /-- The text of the document sent, if there is one. -/
  body : Option String
  deriving DecidableEq, Repr

/-- A response as it comes over the wire. -/
structure WireResponse where
  status : Nat
  entityTag : Option String
  body : List UInt8
  deriving DecidableEq, Repr

/-- A network: it takes a request to the server of its address and brings the
response back, or tells why it could not. -/
abbrev Network := WireRequest → Except String WireResponse

/-- Whether a header may hold a character: tabs, and what is neither a control
character nor the delete character. -/
def isHeaderChar (c : Char) : Bool :=
  c == '\t' || (0x20 ≤ c.toNat && c.toNat != 0x7f)

/-- The tag of the version that a request expects. -/
def ifMatchOf (request : Request) : Except SyncError (Option String) :=
  match request.ifMatch? with
  | none => .ok none
  | some version =>
    let tag := EntityTag.ofVersion version
    if tag.toList.all isHeaderChar then .ok (some tag)
    else .error (.invalidEntity ("invalid version: " ++ version))

/-- A request as it goes over the wire. Only addresses of the web can be reached. -/
def prepare (base : RemoteBase) (request : Request) : Except SyncError WireRequest := do
  let url ← base.urlFor request
  let ifMatch ← ifMatchOf request
  if url.scheme ≠ "http" ∧ url.scheme ≠ "https" then
    throw (.transport ("URL scheme is not allowed: " ++ url.scheme))
  return ⟨request.method, url, ifMatch, request.body?.map Document.render⟩

/-- The phrases of the statuses that have one. -/
def reasonPhrases : List (Nat × String) := [
  (200, "OK"), (201, "Created"), (202, "Accepted"), (203, "Non Authoritative Information"),
  (204, "No Content"), (205, "Reset Content"), (206, "Partial Content"), (207, "Multi-Status"),
  (208, "Already Reported"), (226, "IM Used")]

/-- A successful status with its phrase. -/
def statusText (status : Nat) : String :=
  toString status ++ " " ++ (reasonPhrases.lookup status).getD "<unknown status code>"

/-- A tag that has characters outside ASCII counts as absent. -/
def readableTag (tag : String) : Option String :=
  if tag.toList.all fun c => c.toNat < 0x80 then some tag else none

/-- How many bytes follow the first byte of a character, and which second bytes
may follow it. -/
def continuation? (first : Nat) : Option (Nat × Nat × Nat) :=
  if 0xc2 ≤ first ∧ first ≤ 0xdf then some (1, 0x80, 0xbf)
  else if first = 0xe0 then some (2, 0xa0, 0xbf)
  else if first = 0xed then some (2, 0x80, 0x9f)
  else if 0xe1 ≤ first ∧ first ≤ 0xef then some (2, 0x80, 0xbf)
  else if first = 0xf0 then some (3, 0x90, 0xbf)
  else if 0xf1 ≤ first ∧ first ≤ 0xf3 then some (3, 0x80, 0xbf)
  else if first = 0xf4 then some (3, 0x80, 0x8f)
  else none

/-- A character whose bytes are being read: how many are missing, in which range
the next must lie, and the value so far. -/
structure Unfinished where
  missing : Nat
  least : Nat
  most : Nat
  value : Nat
  deriving DecidableEq, Repr

/-- The character that takes the place of bytes that are no character. -/
def replacement : Char := '\ufffd'

/-- What the first byte of a character starts: a character of its own, a longer
one, or nothing. -/
def startChar (byte : Nat) : List Char × Option Unfinished :=
  if byte < 0x80 then ([Char.ofNat byte], none)
  else
    match continuation? byte with
    | some (count, least, most) =>
      ([], some ⟨count, least, most, byte % Nat.pow 2 (6 - count)⟩)
    | none => ([replacement], none)

/-- The text of bytes in UTF-8. Each longest beginning of a character that is not
completed, and each byte that starts none, becomes one replacement character. -/
def decodeLossy (pending : Option Unfinished) : List UInt8 → List Char
  | [] => if pending.isSome then [replacement] else []
  | byte :: rest =>
    let byte := byte.toNat
    match pending with
    | none =>
      let (chars, next) := startChar byte
      chars ++ decodeLossy next rest
    | some unfinished =>
      if unfinished.least ≤ byte ∧ byte ≤ unfinished.most then
        let value := unfinished.value * 64 + byte % 64
        if unfinished.missing = 1 then Char.ofNat value :: decodeLossy none rest
        else decodeLossy (some ⟨unfinished.missing - 1, 0x80, 0xbf, value⟩) rest
      else
        let (chars, next) := startChar byte
        replacement :: (chars ++ decodeLossy next rest)

/-- The document in the body of a response. A blank body has none; a body that is
no document is a fault where the remote reports success, and otherwise ignored. -/
def bodyOf (response : WireResponse) : Except SyncError (Option Document) :=
  let text := decodeLossy none response.body
  if text.all Blank.isBlank then .ok none
  else
    match Document.readChars text with
    | some document => .ok (some document)
    | none =>
      if 200 ≤ response.status ∧ response.status < 300 then
        .error (.malformedResponse
          (statusText response.status ++ " returned invalid JSON: " ++ notADocument))
      else .ok none

/-- A response that came over the wire. -/
def receive (response : WireResponse) : Except SyncError Response := do
  let body ← bodyOf response
  return ⟨response.status, response.entityTag.bind readableTag, body⟩

/-- Sends a request and reads the response. -/
def send (network : Network) (base : RemoteBase) (request : Request) :
    Except SyncError Response := do
  let wire ← prepare base request
  match network wire with
  | .ok response => receive response
  | .error reason => throw (.transport reason)

end OfflineSync.Http
