import PipeQuery.Proofs.Query.Filtering
import PipeQuery.Proofs.Query.SuccessiveSorts

/-!
# Sorting what is left

Taking items out of a list and sorting it can be done in either order: what is left of the sorted list is
in order, and each item stands among its equals as before.
-/

set_option autoImplicit false

namespace PipeQuery

section StableSort

variable {α : Type} {compare : α → α → Ordering}

theorem stableSort_filter_of_lawful [Std.TransCmp compare] (keep : α → Bool) (items : List α) :
    stableSort compare (items.filter keep) = (stableSort compare items).filter keep := by
  refine eq_of_ordered (pairwise_stableSort_of_lawful _) ((pairwise_stableSort_of_lawful items).filter keep)
    fun item => ?_
  let equal (other : α) : Bool := compare item other == .eq
  calc
    (stableSort compare (items.filter keep)).filter equal
        = (items.filter keep).filter equal := filter_stableSort_of_lawful item _
    _ = (items.filter equal).filter keep := List.filter_comm equal keep items
    _ = ((stableSort compare items).filter equal).filter keep := by rw [filter_stableSort_of_lawful]
    _ = ((stableSort compare items).filter keep).filter equal := List.filter_comm keep equal _

theorem stableSort_filter {items : List α}
    (lawful : Std.TransCmp fun left right : {item // item ∈ items} => compare left.1 right.1)
    (keep : α → Bool) : stableSort compare (items.filter keep) = (stableSort compare items).filter keep := by
  have onMembers := @stableSort_filter_of_lawful _ (fun left right : {item // item ∈ items} =>
    compare left.1 right.1) lawful (keep ∘ Subtype.val) items.attach
  rw [← List.attach_map_subtype_val items, List.filter_map, stableSort_map, stableSort_map, onMembers,
    List.filter_map]

end StableSort

namespace Query

variable {α : Type} [Record α]

theorem apply_keys_filter (keys : List SortKey) {items : List α}
    (homogeneous : ∀ key ∈ keys,
      FieldValue.Homogeneous (items.map fun item => Record.field item key.field)) (keep : α → Bool) :
    Query.apply { keys } (items.filter keep) = (Query.apply { keys } items).filter keep := by
  rw [apply_keys, apply_keys]
  exact stableSort_filter
    (SortKey.transCmp_compareAll fun key member => (homogeneous key member).tiesAgree) keep

end Query

end PipeQuery
