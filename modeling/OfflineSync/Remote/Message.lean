import OfflineSync.Document.Basic

/-!
# Requests and responses

What is said between the device and the remote: a `Request` concerns one table, and one entity of
it unless it creates or queries; a `Response` has a status and may have a body and an entity tag.
The answer to a query holds a `Page`.
-/

namespace OfflineSync

/-- The method that a request is sent with. -/
inductive Method where
  | get
  | post
  | put
  | delete
  deriving DecidableEq, Repr

namespace Method

/-- The name of a method. -/
def name : Method → String
  | .get => "GET"
  | .post => "POST"
  | .put => "PUT"
  | .delete => "DELETE"

end Method

/-- One request to the remote. -/
inductive Request where
  /-- Stores a new entity. -/
  | create (table : String) (body : Document)
  /-- Stores an entity over the one that the remote holds. -/
  | replace (table id : String) (body : Document) (ifMatch : Option String)
  /-- Removes an entity. -/
  | delete (table id : String) (ifMatch : Option String)
  /-- Asks for the first page of a query. -/
  | query (table : String) (text : String)
  /-- Asks for a further page by the link that the page before it gave. -/
  | nextPage (table : String) (link : String)
  deriving DecidableEq, Repr

namespace Request

/-- The method of a request. -/
def method : Request → Method
  | .create .. => .post
  | .replace .. => .put
  | .delete .. => .delete
  | .query .. | .nextPage .. => .get

/-- The table that a request concerns. -/
def table : Request → String
  | .create table _ | .replace table _ _ _ | .delete table _ _ | .query table _
  | .nextPage table _ => table

/-- The entity that a request names. -/
def itemId? : Request → Option String
  | .replace _ id _ _ | .delete _ id _ => some id
  | .create .. | .query .. | .nextPage .. => none

/-- The document that a request carries. -/
def body? : Request → Option Document
  | .create _ body | .replace _ _ body _ => some body
  | .delete .. | .query .. | .nextPage .. => none

/-- The version that the remote must still hold. -/
def ifMatch? : Request → Option String
  | .replace _ _ _ ifMatch | .delete _ _ ifMatch => ifMatch
  | .create .. | .query .. | .nextPage .. => none

/-- The query string of a request. -/
def query? : Request → Option String
  | .query _ text => some text
  | .create .. | .replace .. | .delete .. | .nextPage .. => none

/-- The link that a request follows. -/
def link? : Request → Option String
  | .nextPage _ link => some link
  | .create .. | .replace .. | .delete .. | .query .. => none

end Request

/-- One answer of the remote. -/
structure Response where
  status : Nat
  entityTag : Option String
  body : Option Document
  deriving DecidableEq, Repr

namespace Response

/-- Whether the remote did what it was asked. -/
def isSuccess (response : Response) : Bool :=
  200 ≤ response.status && response.status < 300

/-- Whether the remote holds another version of the entity. -/
def isConflict (response : Response) : Bool :=
  response.status == 409 || response.status == 412

end Response

/-- One page of a query's answer. -/
structure Page where
  items : List Document
  /-- Where the next page is found, unless this is the last. -/
  nextLink : Option String
  deriving DecidableEq, Repr

/-- Why a body is no page; each fault names the kind of value found. -/
inductive PageFault where
  | page (found : String)
  | items (found : String)
  | nextLink (found : String)
  deriving DecidableEq, Repr

namespace PageFault

/-- The text of a fault. -/
def message : PageFault → String
  | .page found => "page must be an array or object, got " ++ found
  | .items found => "page items must be an array, got " ++ found
  | .nextLink found => "nextLink must be a string, got " ++ found

end PageFault

/-- The name of the kind of value that a document is. -/
def Document.kindName : Document → String
  | .null => "null"
  | .boolean _ => "boolean"
  | .number _ => "number"
  | .text _ => "string"
  | .array _ => "array"
  | .object _ => "object"

namespace Page

/-- The items of a page that is an object. -/
def itemsOf (body : Document) : Except PageFault (List Document) :=
  match body.field? "items" with
  | some (.array items) => .ok items
  | none | some .null => .ok []
  | some other => .error (.items other.kindName)

/-- The link of a page that is an object; an empty one is none. -/
def nextLinkOf (body : Document) : Except PageFault (Option String) :=
  match body.field? "nextLink" with
  | some (.text link) => .ok (if link.isEmpty then none else some link)
  | none | some .null => .ok none
  | some other => .error (.nextLink other.kindName)

/-- The page that a body describes: its items alone, or an object that holds them
together with the link. -/
def ofBody : Option Document → Except PageFault Page
  | none | some .null => .ok ⟨[], none⟩
  | some (.array items) => .ok ⟨items, none⟩
  | some (.object fields) => do
    let items ← itemsOf (.object fields)
    let nextLink ← nextLinkOf (.object fields)
    return ⟨items, nextLink⟩
  | some other => .error (.page other.kindName)

end Page

end OfflineSync
