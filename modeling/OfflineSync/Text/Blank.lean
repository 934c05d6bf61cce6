/-!
# Blanks

A blank is a character of white space in the sense of Unicode, `isBlank`, which is more than the
space and the line ends of ASCII.
-/

namespace OfflineSync.Blank

/-- Whether a character is white space. -/
def isBlank (c : Char) : Bool :=
  (9 ≤ c.toNat && c.toNat ≤ 13) || (0x2000 ≤ c.toNat && c.toNat ≤ 0x200a) ||
    [0x20, 0x85, 0xa0, 0x1680, 0x2028, 0x2029, 0x202f, 0x205f, 0x3000].contains c.toNat

/-- A text without the blanks at its front. -/
def skip (text : List Char) : List Char :=
  text.dropWhile isBlank

end OfflineSync.Blank
