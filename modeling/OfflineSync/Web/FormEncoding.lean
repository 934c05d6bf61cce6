import OfflineSync.Web.Percent

/-!
# Form encoding

`encode` writes pairs of names and values as one line of text, in the form that query strings use:
letters, digits and four marks stand for themselves, `isPlain`, a space is a plus sign, every other
byte is escaped, and ampersands separate the pairs.
-/

namespace OfflineSync.FormEncoding

/-- The characters that stand for themselves. -/
def isPlain (c : Char) : Bool :=
  ('a' ≤ c && c ≤ 'z') || ('A' ≤ c && c ≤ 'Z') || ('0' ≤ c && c ≤ '9') ||
    c == '*' || c == '-' || c == '.' || c == '_'

/-- One character in form encoding. -/
def encodeChar (c : Char) : List Char :=
  if isPlain c then [c]
  else if c = ' ' then ['+']
  else Percent.escapeChar c

/-- A text in form encoding. -/
def encodeText (text : String) : List Char :=
  text.toList.flatMap encodeChar

/-- One pair in form encoding. -/
def encodePair (pair : String × String) : List Char :=
  encodeText pair.1 ++ '=' :: encodeText pair.2

/-- Pairs in form encoding, in their order. -/
def encode (pairs : List (String × String)) : String :=
  String.ofList (['&'].intercalate (pairs.map encodePair))

end OfflineSync.FormEncoding
