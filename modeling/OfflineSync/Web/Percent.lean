/-!
# Percent encoding

Texts that travel in addresses are written byte by byte in UTF-8, each byte either as it is or, by
`escape`, as a percent sign and two hexadecimal digits.
-/

namespace OfflineSync.Percent

/-- The UTF-8 bytes of a character. -/
def bytesOf (c : Char) : List UInt8 :=
  String.utf8EncodeChar c

/-- A hexadecimal digit in upper case. -/
def upperDigit (value : Nat) : Char :=
  (Nat.digitChar value).toUpper

/-- A byte as a percent sign and two digits. -/
def escape (byte : UInt8) : List Char :=
  ['%', upperDigit (byte.toNat / 16), upperDigit (byte.toNat % 16)]

/-- A character with its bytes escaped. -/
def escapeChar (c : Char) : List Char :=
  (bytesOf c).flatMap escape

/-- A text in which each character of a set, and every character outside ASCII,
is escaped. -/
def encode (escaped : Char → Bool) (text : List Char) : List Char :=
  text.flatMap fun c => if escaped c || 0x7f < c.toNat then escapeChar c else [c]

/-- The control characters of ASCII. -/
def isControl (c : Char) : Bool :=
  c.toNat < 0x20 || c.toNat == 0x7f

end OfflineSync.Percent
