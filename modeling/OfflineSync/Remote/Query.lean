import OfflineSync.Calendar.Timestamp
import OfflineSync.Entity.Metadata
import OfflineSync.Web.FormEncoding

/-!
# Queries on a remote table

A `QueryDescription` says which rows of a table are wanted and in which order. `compile` turns it
into the query string of a request.
-/

namespace OfflineSync

/-- The direction of one term of an order. -/
inductive SortDirection where
  | ascending
  | descending
  deriving DecidableEq, Repr

/-- One term of an order. -/
structure OrderTerm where
  field : String
  direction : SortDirection
  deriving DecidableEq, Repr

/-- What is asked of a table. -/
structure QueryDescription where
  table : String
  /-- Clauses that all must hold. -/
  filters : List String
  order : List OrderTerm
  skip : Option Nat
  top : Option Nat
  includeDeleted : Bool
  deriving DecidableEq, Repr

/-- The clause that selects the rows changed at or after a moment. -/
def updatedSince (moment : Instant) : String :=
  EntityMetadata.updatedAtField ++ " ge " ++ Timestamp.renderMicros moment

namespace SortDirection

/-- The word for a direction in a query string. -/
def keyword : SortDirection → String
  | .ascending => "asc"
  | .descending => "desc"

end SortDirection

namespace QueryDescription

/-- Every clause in parentheses, joined by the word and. -/
def filterText (filters : List String) : String :=
  " and ".intercalate (filters.map fun clause => "(" ++ clause ++ ")")

/-- The terms of an order with their directions, joined by commas. -/
def orderText (order : List OrderTerm) : String :=
  ",".intercalate (order.map fun term => term.field ++ " " ++ term.direction.keyword)

/-- The pairs of a query string; a part that asks nothing is left out. -/
def pairs (query : QueryDescription) : List (String × String) :=
  (if query.filters.isEmpty then [] else [("$filter", filterText query.filters)]) ++
  (if query.order.isEmpty then [] else [("$orderby", orderText query.order)]) ++
  (query.skip.map fun count => ("$skip", toString count)).toList ++
  (query.top.map fun count => ("$top", toString count)).toList ++
  (if query.includeDeleted then [("__includedeleted", "true")] else [])

/-- The query string of a description. -/
def compile (query : QueryDescription) : String :=
  FormEncoding.encode query.pairs

end QueryDescription

end OfflineSync
