/-!
# Ranges of characters

Sets of characters are given as lists of ranges of codes, each a `CodeRange` with both ends
included.
-/

namespace OfflineSync

/-- The codes from a first to a last one. -/
abbrev CodeRange := Nat × Nat

namespace CodeRange

/-- Whether a code lies in a range. -/
def contains (range : CodeRange) (code : Nat) : Bool :=
  range.1 ≤ code && code ≤ range.2

/-- Whether a code lies in one of some ranges. -/
def anyContains (ranges : List CodeRange) (code : Nat) : Bool :=
  ranges.any fun range => contains range code

end CodeRange

end OfflineSync
