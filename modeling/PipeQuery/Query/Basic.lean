import PipeQuery.Query.Clause
import PipeQuery.Query.SortKey

/-!
# Queries

A query holds of a record if all required clauses hold, one of the alternatives does, if there are any,
and none of the excluded ones. The records that it keeps are sorted by its keys.
-/

set_option autoImplicit false

namespace PipeQuery

structure Query where
  required : List Clause := []
  /-- Clauses of which one has to hold, if there are any. -/
  alternatives : List Clause := []
  excluded : List Clause := []
  keys : List SortKey := []

namespace Query

variable {α : Type} [Record α]

def isEmpty (query : Query) : Bool :=
  query.required.isEmpty && query.alternatives.isEmpty && query.excluded.isEmpty

def clauseHolds (item : α) (clause : Clause) : Bool :=
  clause.holds (Record.field item clause.field)

def holds (query : Query) (item : α) : Bool :=
  query.required.all (clauseHolds item)
    && (query.alternatives.isEmpty || query.alternatives.any (clauseHolds item))
    && !query.excluded.any (clauseHolds item)

def order (query : Query) (left right : α) : Ordering :=
  SortKey.compareAll Record.field query.keys left right

def filter (query : Query) (items : List α) : List α :=
  stableSort query.order (items.filter query.holds)

def sort (query : Query) (items : List α) : List α :=
  if query.keys.isEmpty then items else stableSort query.order items

/-- What the query leaves of records: those of which it holds, sorted. -/
def apply (query : Query) (items : List α) : List α :=
  query.sort (if query.isEmpty then items else items.filter query.holds)

end Query

end PipeQuery
