import PipeQuery.Query.Operator
import PipeQuery.Record.Basic

/-!
# Sort keys

A sort key is a field with a direction. Several keys make a lexicographic comparison, in which values
that cannot be compared count as equal. Missing values come last in both directions.
-/

set_option autoImplicit false

namespace PipeQuery

structure SortKey where
  field : String
  direction : Direction := .ascending
deriving DecidableEq, Repr

namespace SortKey

/-- The order of two values under a key. The direction concerns values that are there. -/
def compare? (key : SortKey) (left right : FieldValue) : Option Ordering :=
  match left.isMissing, right.isMissing with
  | true, true => some .eq
  | true, false => some .gt
  | false, true => some .lt
  | false, false => (left.compare? right).map key.direction.apply

/-- The order of two items under a list of keys: the first key that tells them apart decides. -/
def compareAll {α : Type} (field : α → String → FieldValue) (keys : List SortKey)
    (left right : α) : Ordering :=
  match keys with
  | [] => .eq
  | key :: later =>
    match key.compare? (field left key.field) (field right key.field) with
    | some .lt => .lt
    | some .gt => .gt
    | _ => compareAll field later left right

end SortKey

/-- Sorts a list by a comparison. Items that compare as equal keep their order. The order of the result says
something only where the comparison is a total preorder: by any other comparison a stable sort may leave the
items in whatever order, or give up. -/
def stableSort {α : Type} (compare : α → α → Ordering) (items : List α) : List α :=
  items.mergeSort (fun left right => compare left right != .gt)

end PipeQuery
