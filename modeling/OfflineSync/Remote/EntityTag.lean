import OfflineSync.Remote.Message

/-!
# Entity tags and versions

The remote names a version by an entity tag. The device keeps the bare text of a strong tag, and a
weak tag as a whole, `toVersion`; `ofVersion` writes either as a tag again.
-/

namespace OfflineSync.EntityTag

/-- Whether a tag is a weak one. -/
def isWeak : List Char → Bool
  | 'W' :: '/' :: _ => true
  | _ => false

/-- A text without the quotes at both of its ends. -/
def trimQuotes (text : List Char) : List Char :=
  ((text.dropWhile (· == '"')).reverse.dropWhile (· == '"')).reverse

/-- The version that a tag names. -/
def versionChars (tag : List Char) : List Char :=
  if isWeak tag then tag else trimQuotes tag

/-- The tag that names a version. -/
def ofVersionChars (version : List Char) : List Char :=
  if version.head? = some '"' ∨ isWeak version then version
  else '"' :: (version ++ ['"'])

/-- The version that a tag names. -/
def toVersion (tag : String) : String :=
  String.ofList (versionChars tag.toList)

/-- The tag that names a version. -/
def ofVersion (version : String) : String :=
  String.ofList (ofVersionChars version.toList)

end OfflineSync.EntityTag

namespace OfflineSync

/-- The version that a response names by its tag. -/
def Response.version (response : Response) : Option String :=
  response.entityTag.map EntityTag.toVersion

end OfflineSync
