import OfflineSync.Web.Domain.Composition
import OfflineSync.Web.Domain.Direction
import OfflineSync.Web.Domain.Joining
import OfflineSync.Web.Domain.Permitted
import OfflineSync.Web.Domain.Punycode

/-!
# Domain labels

A label that starts with the `punycodeMark` stands for a label with characters outside ASCII. It
must be the one spelling of a label that may be registered, `isProper`: composed, of permitted
characters, and not misleading by marks, joiners or directions.
-/

namespace OfflineSync.DomainLabel

/-- What a label in Punycode starts with. -/
def punycodeMark : List Char := ['x', 'n', '-', '-']

/-- The most characters of Punycode that a label may have. -/
def longestPunycode : Nat := 2000

/-- The most characters that a decoded label may have. -/
def longestDecoded : Nat := 1000

/-- Whether the characters of a decoded label make up a proper label. -/
def isProper (label : List Nat) : Bool :=
  label.length ≤ longestDecoded &&
    label.all (fun code => code < 0x80 || isPermitted code) &&
    Composition.isNormal label &&
    !(label.head?.any Mark.isMark) &&
    !((punycodeMark.map Char.toNat).isPrefixOf label) &&
    Joining.arePlaced [] label

/-- The characters of a label in lower case, or nothing where it is in Punycode
and stands for no proper label. -/
def codes? (label : List Char) : Option (List Nat) :=
  if punycodeMark.isPrefixOf label then
    let written := label.drop punycodeMark.length
    if label.getLast? = some '-' ∨ longestPunycode < written.length then none
    else (Punycode.decode written).filter isProper
  else some (label.map Char.toNat)

/-- Whether labels make up a domain. -/
def areProper (labels : List (List Char)) : Bool :=
  match labels.mapM codes? with
  | none => false
  | some decoded =>
    !decoded.any Direction.isRightToLeft || decoded.all Direction.isAllowed

end OfflineSync.DomainLabel
