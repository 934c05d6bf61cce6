import OfflineSync.Document.Reader
import OfflineSync.Web.Domain.Label
import OfflineSync.Web.Percent

/-!
# Hosts

The host of an address is a domain, an IPv4 address in any of the notations that
browsers accept, or an IPv6 address in brackets. Domains are written in ASCII, with
labels of other characters in Punycode. Hosts of schemes that are not special are
kept as they are written, `Host.readOpaque`.

A domain has one spelling in ASCII, and it is this spelling that an address holds.
The mapping of other spellings to it is left out: `Host.readSpecial` takes a domain
with a character outside ASCII, plain or escaped, for an error, where the mapping
would write `xn--bcher-kva.de` for `bücher.de`. No address is lost by this, only
spellings of it. The spelling in ASCII is checked in full: a label in Punycode has to
stand for a proper label, `DomainLabel.areProper`.
-/

namespace OfflineSync

/-- Why a text is not an address. -/
inductive UrlError where
  | relativeWithoutBase
  | emptyHost
  | invalidDomain
  | invalidDomainCharacter
  | invalidIpv4
  | invalidIpv6
  | invalidPort
  deriving DecidableEq, Repr

namespace UrlError

/-- The text of an error. -/
def message : UrlError → String
  | .relativeWithoutBase => "relative URL without a base"
  | .emptyHost => "empty host"
  | .invalidDomain => "invalid international domain name"
  | .invalidDomainCharacter => "invalid domain character"
  | .invalidIpv4 => "invalid IPv4 address"
  | .invalidIpv6 => "invalid IPv6 address"
  | .invalidPort => "invalid port number"

end UrlError

/-- A text cut at every character that satisfies a test. -/
def splitAtChars (separates : Char → Bool) : List Char → List (List Char)
  | [] => [[]]
  | c :: rest =>
    match splitAtChars separates rest with
    | first :: others => if separates c then [] :: first :: others else (c :: first) :: others
    | [] => [[c]]

namespace Host

/-- The value of digits in a base, unless one of them is no digit of the base. -/
def valueInBase? (base : Nat) (digits : List Char) : Option Nat :=
  digits.foldlM (fun value c =>
    match Document.hexValue? c with
    | some digit => if digit < base then some (value * base + digit) else none
    | none => none) 0

/-- The value of one part of an IPv4 address: hexadecimal behind 0x, octal behind
a zero, else decimal. -/
def ipv4Number? : List Char → Option Nat
  | [] => none
  | '0' :: 'x' :: digits | '0' :: 'X' :: digits => valueInBase? 16 digits
  | '0' :: digit :: digits => valueInBase? 8 (digit :: digits)
  | digits => valueInBase? 10 digits

/-- The parts of a domain between its dots, without an empty one at the end. -/
def domainParts (domain : List Char) : List (List Char) :=
  let parts := splitAtChars (· == '.') domain
  if parts.getLast? = some [] then parts.dropLast else parts

/-- Whether the last part of a domain is a number, so that the domain must be an
IPv4 address. -/
def endsInNumber (domain : List Char) : Bool :=
  match (domainParts domain).getLast? with
  | none | some [] => false
  | some last => last.all Char.isDigit || (ipv4Number? last).isSome

/-- The address that the numbers of up to four parts denote; the last one fills
all bytes that are left. -/
def ipv4OfNumbers (numbers : List Nat) : Option Nat :=
  match numbers.getLast? with
  | none => none
  | some last =>
    let leading := numbers.dropLast
    if 4 < numbers.length ∨ Nat.pow 256 (4 - leading.length) ≤ last ∨ leading.any (255 < ·) then none
    else
      some (leading.zipIdx.foldl (fun address (number, place) => address + number * Nat.pow 256 (3 - place))
        last)

/-- The IPv4 address that a domain denotes. -/
def ipv4? (domain : List Char) : Option Nat :=
  ((domainParts domain).mapM ipv4Number?).bind ipv4OfNumbers

/-- The four decimal parts of an IPv4 address. -/
def renderIpv4 (address : Nat) : List Char :=
  ['.'].intercalate ([3, 2, 1, 0].map fun place => Nat.toDigits 10 (address / Nat.pow 256 place % 256))

/-- One group of an IPv6 address. -/
def ipv6Group? (digits : List Char) : Option Nat :=
  if 1 ≤ digits.length ∧ digits.length ≤ 4 then valueInBase? 16 digits else none

/-- One part of an IPv4 address that ends an IPv6 address. -/
def ipv4Part? (digits : List Char) : Option Nat :=
  if digits.isEmpty ∨ ¬ digits.all Char.isDigit ∨ (digits.head? = some '0' ∧ 1 < digits.length) then
    none
  else
    let value := Nat.ofDigitChars 10 digits 0
    if value ≤ 255 then some value else none

/-- The two groups of an IPv4 address that ends an IPv6 address. -/
def ipv4Groups? (text : List Char) : Option (List Nat) :=
  match (splitAtChars (· == '.') text).mapM ipv4Part? with
  | some [a, b, c, d] => some [a * 256 + b, c * 256 + d]
  | _ => none

/-- The groups of one side of an IPv6 address; `ends` says whether the address
ends with it. -/
def ipv6Side? (ends : Bool) (text : List Char) : Option (List Nat) :=
  if text.isEmpty then some []
  else
    let parts := splitAtChars (· == ':') text
    let last := parts.getLastD []
    if ends ∧ last.contains '.' then do
      return (← parts.dropLast.mapM ipv6Group?) ++ (← ipv4Groups? last)
    else parts.mapM ipv6Group?

/-- A text cut at its first double colon. -/
def cutAtDoubleColon : List Char → Option (List Char × List Char)
  | ':' :: ':' :: rest => some ([], rest)
  | c :: rest => (cutAtDoubleColon rest).map fun (before, after) => (c :: before, after)
  | [] => none

/-- The eight groups of an IPv6 address. A double colon stands for one or more
groups of zero. -/
def ipv6? (text : List Char) : Option (List Nat) :=
  match cutAtDoubleColon text with
  | none =>
    (ipv6Side? true text).bind fun groups => if groups.length = 8 then some groups else none
  | some (before, after) => do
    let left ← ipv6Side? false before
    let right ← ipv6Side? true after
    if 7 < left.length + right.length then none
    else some (left ++ List.replicate (8 - left.length - right.length) 0 ++ right)

/-- The number of zero groups in front of a list of groups. -/
def zeroRun (groups : List Nat) : Nat :=
  (groups.takeWhile (· == 0)).length

/-- Where the longest run of two or more zero groups starts, and its length; of
equal runs the first counts. -/
def longestZeroRun (groups : List Nat) : Option (Nat × Nat) :=
  let runs := (List.range groups.length).map fun start => (start, zeroRun (groups.drop start))
  runs.foldl (fun best run =>
    if 2 ≤ run.2 ∧ (best.map Prod.snd).getD 0 < run.2 then some run else best) none

/-- Groups in hexadecimal with colons between them. -/
def renderGroups (groups : List Nat) : List Char :=
  [':'].intercalate (groups.map (Nat.toDigits 16))

/-- An IPv6 address in brackets. -/
def renderIpv6 (groups : List Nat) : List Char :=
  let inner := match longestZeroRun groups with
    | none => renderGroups groups
    | some (start, length) =>
      renderGroups (groups.take start) ++ ':' :: ':' :: renderGroups (groups.drop (start + length))
  '[' :: (inner ++ [']'])

/-- The characters that no domain may contain. -/
def isForbidden (c : Char) : Bool :=
  c.toNat ≤ 0x20 || c.toNat == 0x7f || ['%', '#', '/', ':', '<', '>', '?', '@', '[', '\\', ']', '^', '|'].contains c

/-- A text with each escaped byte of ASCII put back. -/
def percentDecode : List Char → List Char
  | '%' :: high :: low :: rest =>
    match Document.hexValue? high, Document.hexValue? low with
    | some h, some l => Char.ofNat (h * 16 + l) :: percentDecode rest
    | _, _ => '%' :: percentDecode (high :: low :: rest)
  | c :: rest => c :: percentDecode rest
  | [] => []

/-- The address in brackets that a text denotes. -/
def readBracketed (text : List Char) : Except UrlError (List Char) :=
  if text.getLast? ≠ some ']' then .error .invalidIpv6
  else
    match ipv6? text.tail.dropLast with
    | some groups => .ok (renderIpv6 groups)
    | none => .error .invalidIpv6

/-- The host of a special scheme, in its normal form. A domain is read from its
spelling in ASCII only. -/
def readSpecial (text : List Char) : Except UrlError (List Char) :=
  if text.head? = some '[' then readBracketed text
  else
    let domain := (percentDecode text).map Char.toLower
    if domain.any fun c => isForbidden c || 0x7f < c.toNat then .error .invalidDomain
    else if ¬ DomainLabel.areProper (splitAtChars (· == '.') domain) then .error .invalidDomain
    else if domain.isEmpty then .error .emptyHost
    else if endsInNumber domain then
      match ipv4? domain with
      | some address => .ok (renderIpv4 address)
      | none => .error .invalidIpv4
    else .ok domain

/-- The host of a scheme that is not special, control characters escaped. -/
def readOpaque (text : List Char) : Except UrlError (List Char) :=
  if text.head? = some '[' then readBracketed text
  else if text.any ['\x00', '\t', '\n', '\r', ' ', '#', '/', ':', '<', '>', '?', '@', '[', '\\', ']', '^', '|'].contains then
    .error .invalidDomainCharacter
  else .ok (Percent.encode Percent.isControl text)

end Host

end OfflineSync
