import PipeQuery.Proofs.Query.Blocks

/-!
# Sorting in the other direction

Sorting by the opposite of a comparison is sorting the reversed list and reversing the result: reversal
turns the order round, and done twice it leaves items that are equal as they were. A direction does not
concern missing values, so this holds of the items that have the field; the others follow them.
-/

set_option autoImplicit false

namespace PipeQuery

section StableSort

variable {α : Type} {compare : α → α → Ordering}

theorem stableSort_opposite [Std.TransCmp compare] (items : List α) :
    stableSort (fun left right => compare right left) items =
      (stableSort compare items.reverse).reverse := by
  let opposite (left right : α) : Ordering := compare right left
  have lawful : Std.TransCmp opposite := Std.TransCmp.opposite
  have turned (item other : α) : (opposite item other == .eq) = (compare item other == .eq) := by
    rw [Bool.eq_iff_iff, beq_iff_eq, beq_iff_eq]
    exact Std.OrientedCmp.eq_comm
  have ordered : (stableSort opposite items).Pairwise fun left right => opposite left right ≠ .gt :=
    pairwise_stableSort_of_lawful items
  refine eq_of_ordered ordered ?_ fun item => ?_
  · exact List.pairwise_reverse.mpr (pairwise_stableSort_of_lawful items.reverse)
  · calc
      (stableSort opposite items).filter (fun other => opposite item other == .eq)
          = items.filter fun other => compare item other == .eq := by
            rw [filter_stableSort_of_lawful]
            simp only [turned]
      _ = ((stableSort compare items.reverse).filter fun other => compare item other == .eq).reverse := by
            rw [filter_stableSort_of_lawful, List.filter_reverse, List.reverse_reverse]
      _ = (stableSort compare items.reverse).reverse.filter fun other => opposite item other == .eq := by
            simp only [turned, List.filter_reverse]

/-- Only the comparisons among the items count, for either order. -/
theorem stableSort_mirrored {items : List α} {opposite : α → α → Ordering}
    (lawful : Std.TransCmp fun left right : {item // item ∈ items} => compare left.1 right.1)
    (turned : ∀ left ∈ items, ∀ right ∈ items, opposite left right = compare right left) :
    stableSort opposite items = (stableSort compare items.reverse).reverse := by
  let onMembers (left right : {item // item ∈ items}) : Ordering := compare left.1 right.1
  have agrees : (fun left right : {item // item ∈ items} => opposite left.1 right.1) =
      fun left right => onMembers right left := by
    funext left right
    exact turned left.1 left.2 right.1 right.2
  have reversed : items.attach.reverse.map Subtype.val = items.reverse := by
    rw [List.map_reverse, List.attach_map_subtype_val]
  rw [stableSort_eq_map_attach, agrees, @stableSort_opposite _ onMembers lawful, List.map_reverse,
    ← stableSort_map, reversed]

end StableSort

namespace SortKey

theorem order_descending {field : String} {left right : FieldValue} (leftThere : left ≠ .missing)
    (rightThere : right ≠ .missing) :
    order ⟨field, .descending⟩ left right = order ⟨field, .ascending⟩ right left := by
  rw [order_of_there leftThere rightThere, order_of_there rightThere leftThere]

end SortKey

namespace Query

variable {α : Type} [Record α] {items : List α}

theorem apply_key_descending {field : String}
    (homogeneous : FieldValue.Homogeneous (items.map fun item => Record.field item field))
    (there : ∀ item ∈ items, (Record.field item field).isMissing = false) :
    Query.apply { keys := [⟨field, .descending⟩] } items =
      (Query.apply { keys := [⟨field, .ascending⟩] } items.reverse).reverse := by
  rw [apply_keys, apply_keys]
  refine stableSort_mirrored (SortKey.transCmp_compareAll ?_) fun left leftMember right rightMember => ?_
  · exact List.forall_mem_singleton.mpr homogeneous.tiesAgree
  · rw [SortKey.compareAll_singleton, SortKey.compareAll_singleton]
    exact SortKey.order_descending (FieldValue.isMissing_eq_false_iff.mp (there left leftMember))
      (FieldValue.isMissing_eq_false_iff.mp (there right rightMember))

/-- In either direction the items that have the field come first, sorted, and the others follow in the
order they came in. -/
theorem apply_key_eq_append_lacking {key : SortKey}
    (homogeneous : FieldValue.Homogeneous (items.map fun item => Record.field item key.field)) :
    Query.apply { keys := [key] } items =
      Query.apply { keys := [key] } (items.filter fun item => !(Record.field item key.field).isMissing) ++
        items.filter fun item => (Record.field item key.field).isMissing := by
  let rank (item : α) : Nat := (Record.field item key.field).isMissing.toNat
  have having : stretch rank 0 1 items =
      items.filter fun item => !(Record.field item key.field).isMissing :=
    List.filter_congr fun item _ => by
      cases missing : (Record.field item key.field).isMissing <;> simp [rank, missing]
  have lacking : stretch rank 1 2 items =
      items.filter fun item => (Record.field item key.field).isMissing :=
    List.filter_congr fun item _ => by
      cases missing : (Record.field item key.field).isMissing <;> simp [rank, missing]
  have whole : stretch rank 0 2 items = items :=
    List.filter_eq_self.mpr fun item _ => by simp [rank, Nat.lt_succ_of_le (Bool.toNat_le _)]
  have ranked : (Query.apply { keys := [key] } items).Pairwise fun left right => rank left ≤ rank right := by
    refine (pairwise_order homogeneous).imp fun {left right} ascends => ?_
    cases missing : (Record.field left key.field).isMissing with
    | false => simp [rank, missing]
    | true => simp [rank, missing, SortKey.isMissing_of_order_ne_gt ascends missing]
  calc
    Query.apply { keys := [key] } items
        = Query.apply { keys := [key] } (stretch rank 0 2 items) := by rw [whole]
    _ = Query.apply { keys := [key] } (stretch rank 0 1 items) ++
          Query.apply { keys := [key] } (stretch rank 1 2 items) := by
        simp only [apply_key_stretch homogeneous]
        exact stretch_append ranked (Nat.zero_le 1) (Nat.le_succ 1)
    _ = _ := by
        rw [having, lacking, apply_key_of_lacking fun item member => (List.mem_filter.mp member).2]

end Query

end PipeQuery
