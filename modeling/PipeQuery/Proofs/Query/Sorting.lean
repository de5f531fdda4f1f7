import PipeQuery.Proofs.Query.Comparison
import PipeQuery.Query.Basic

/-!
# Sorted records

Sorting by a comparison permutes the items, puts them in order and keeps items that compare as equal in
the order they came in, provided that the comparison is a total preorder among these items. Whether it is
one elsewhere does not matter.
-/

set_option autoImplicit false

namespace PipeQuery

/-! ## Stable sorting -/

section StableSort

variable {α : Type} {compare : α → α → Ordering}

theorem stableSort_perm (items : List α) : (stableSort compare items).Perm items :=
  List.mergeSort_perm _ _

theorem bne_gt_iff {outcome : Ordering} : (outcome != .gt) = true ↔ outcome.isLE = true := by
  cases outcome <;> decide

theorem le_trans_of_transCmp [Std.TransCmp compare] (first second third : α)
    (ascends : (compare first second != .gt) = true) (further : (compare second third != .gt) = true) :
    (compare first third != .gt) = true :=
  bne_gt_iff.mpr (Std.TransCmp.isLE_trans (bne_gt_iff.mp ascends) (bne_gt_iff.mp further))

theorem le_total_of_transCmp [Std.TransCmp compare] (left right : α) :
    (compare left right != .gt || compare right left != .gt) = true := by
  have swapped : compare right left = (compare left right).swap := Std.OrientedCmp.eq_swap
  rw [swapped]
  cases compare left right <;> rfl

theorem pairwise_stableSort_of_lawful [Std.TransCmp compare] (items : List α) :
    (stableSort compare items).Pairwise fun left right => compare left right ≠ .gt :=
  (List.pairwise_mergeSort le_trans_of_transCmp le_total_of_transCmp items).imp
    fun ordered => by simpa using ordered

/-- The items equal to an item are in order already, so they stay a sublist of the sorted ones. -/
theorem filter_stableSort_of_lawful [Std.TransCmp compare] (item : α) (items : List α) :
    (stableSort compare items).filter (fun other => compare item other == .eq) =
      items.filter fun other => compare item other == .eq := by
  let equal (other : α) : Bool := compare item other == .eq
  have ordered : (items.filter equal).Pairwise fun left right => (compare left right != .gt) = true := by
    refine List.pairwise_of_forall_mem_list fun left leftMember right rightMember => ?_
    have leftEqual : compare item left = .eq := by simpa [equal] using (List.mem_filter.mp leftMember).2
    have rightEqual : compare item right = .eq := by simpa [equal] using (List.mem_filter.mp rightMember).2
    simp [Std.TransCmp.eq_trans (Std.OrientedCmp.eq_symm leftEqual) rightEqual]
  have kept : (items.filter equal).Sublist (stableSort compare items) :=
    List.sublist_mergeSort le_trans_of_transCmp le_total_of_transCmp ordered List.filter_sublist
  have sublist : (items.filter equal).Sublist ((stableSort compare items).filter equal) := by
    simpa [List.filter_filter] using kept.filter equal
  exact (sublist.eq_of_length ((stableSort_perm items).filter equal).length_eq.symm).symm

theorem stableSort_map {β : Type} (compare : α → α → Ordering) (view : β → α) (items : List β) :
    stableSort compare (items.map view) =
      (stableSort (fun left right => compare (view left) (view right)) items).map view :=
  (List.map_mergeSort (f := view) fun _ _ _ _ => rfl).symm

/-- Only the items that are sorted are compared. -/
theorem stableSort_eq_map_attach (items : List α) :
    stableSort compare items =
      (stableSort (fun left right : {item // item ∈ items} => compare left.1 right.1)
        items.attach).map Subtype.val := by
  rw [← stableSort_map, List.attach_map_subtype_val]

variable {items : List α}

/-- Items that are in order stay as they are, also under a comparison that is no total preorder. -/
theorem stableSort_of_pairwise (ordered : items.Pairwise fun left right => compare left right ≠ .gt) :
    stableSort compare items = items :=
  List.mergeSort_of_pairwise (ordered.imp fun ascends => by simpa using ascends)

theorem pairwise_stableSort
    (lawful : Std.TransCmp fun left right : {item // item ∈ items} => compare left.1 right.1) :
    (stableSort compare items).Pairwise fun left right => compare left right ≠ .gt := by
  rw [stableSort_eq_map_attach, List.pairwise_map]
  exact pairwise_stableSort_of_lawful items.attach

theorem filter_stableSort
    (lawful : Std.TransCmp fun left right : {item // item ∈ items} => compare left.1 right.1)
    {item : α} (member : item ∈ items) :
    (stableSort compare items).filter (fun other => compare item other == .eq) =
      items.filter fun other => compare item other == .eq := by
  let onMembers (left right : {item // item ∈ items}) : Ordering := compare left.1 right.1
  let equal (other : α) : Bool := compare item other == .eq
  calc
    (stableSort compare items).filter equal
        = ((stableSort onMembers items.attach).map Subtype.val).filter equal := by
          rw [stableSort_eq_map_attach]
    _ = ((stableSort onMembers items.attach).filter (equal ∘ Subtype.val)).map Subtype.val :=
          List.filter_map
    _ = (items.attach.filter (equal ∘ Subtype.val)).map Subtype.val :=
          congrArg (List.map Subtype.val)
            (@filter_stableSort_of_lawful _ onMembers lawful ⟨item, member⟩ items.attach)
    _ = (items.attach.map Subtype.val).filter equal := List.filter_map.symm
    _ = items.filter equal := by rw [List.attach_map_subtype_val]

end StableSort

/-! ## Sorting by keys -/

namespace SortKey

theorem isMissing_of_order_ne_gt {key : SortKey} {left right : FieldValue}
    (ascends : key.order left right ≠ .gt) (missing : left.isMissing = true) : right.isMissing = true := by
  cases there : right.isMissing with
  | true => rfl
  | false => simp [order, compare?, missing, there] at ascends

end SortKey

namespace Query

variable {α : Type} [Record α]

theorem sort_eq_stableSort (query : Query) (items : List α) :
    query.sort items = stableSort query.order items := by
  rw [sort]
  split
  next noKeys =>
    have equal (left right : α) : query.order left right = .eq := by
      rw [order, List.isEmpty_iff.mp noKeys, SortKey.compareAll]
    exact (stableSort_of_pairwise (List.pairwise_of_forall fun left right => by simp [equal])).symm
  next => rfl

theorem transCmp_order {query : Query} {items : List α}
    (homogeneous : ∀ key ∈ query.keys,
      FieldValue.Homogeneous (items.map fun item => Record.field item key.field)) :
    Std.TransCmp fun left right : {item // item ∈ items} => query.order left.1 right.1 :=
  SortKey.transCmp_compareAll fun key member => (homogeneous key member).tiesAgree

/-- Sorting records that are homogeneous under each key permutes them, puts them in order, keeps equal
ones in the order they came in and has those that lack the first field last. -/
theorem sort_sorts_stably (query : Query) (items : List α)
    (homogeneous : ∀ key ∈ query.keys,
      FieldValue.Homogeneous (items.map fun item => Record.field item key.field)) :
    (query.sort items).Perm items ∧
      (query.sort items).Pairwise (fun left right => query.order left right ≠ .gt) ∧
      (∀ item ∈ items, (query.sort items).filter (fun other => query.order item other == .eq) =
        items.filter fun other => query.order item other == .eq) ∧
      ∀ key later, query.keys = key :: later → (query.sort items).Pairwise fun left right =>
        (Record.field left key.field).isMissing = true →
          (Record.field right key.field).isMissing = true := by
  have lawful := transCmp_order homogeneous
  rw [sort_eq_stableSort]
  have sorted := pairwise_stableSort lawful
  refine ⟨stableSort_perm items, sorted, fun item member => filter_stableSort lawful member, ?_⟩
  intro key later keys
  refine sorted.imp fun {left right} ascends => ?_
  rw [order, keys] at ascends
  exact SortKey.isMissing_of_order_ne_gt (SortKey.order_ne_gt_of_compareAll ascends)

theorem sort_sorts_stably_records_with_gaps :
    let query : Query := { keys := [⟨"n", .descending⟩, ⟨"s", .ascending⟩] }
    let items : List Json :=
      [.object [("s", .string "z")],
        .object [("n", .integer 1 (by decide)), ("s", .string "b")],
        .object [("n", .integer 2 (by decide)), ("s", .null)],
        .object [("n", .integer 2 (by decide)), ("s", .string "a")],
        .object [("n", .integer 1 (by decide)), ("s", .string "b"), ("t", .bool true)]]
    (∀ key ∈ query.keys, FieldValue.Homogeneous (items.map fun item => Record.field item key.field)) ∧
      (query.sort items).Perm items ∧
      (query.sort items).Pairwise (fun left right => query.order left right ≠ .gt) ∧
      (∀ item ∈ items, (query.sort items).filter (fun other => query.order item other == .eq) =
        items.filter fun other => query.order item other == .eq) ∧
      ∀ key later, query.keys = key :: later → (query.sort items).Pairwise fun left right =>
        (Record.field left key.field).isMissing = true →
          (Record.field right key.field).isMissing = true := by
  intro query items
  have homogeneous : ∀ key ∈ query.keys,
      FieldValue.Homogeneous (items.map fun item => Record.field item key.field) := by
    simp only [query, List.forall_mem_cons]
    refine ⟨⟨.signed, ?_⟩, ⟨.text, ?_⟩, by simp⟩
    · have numbers : (items.map fun item => Record.field item "n") =
          [.missing, .number (.signed 1), .number (.signed 2), .number (.signed 2), .number (.signed 1)] := by
        decide +kernel
      simp only [numbers, List.forall_mem_cons]
      exact ⟨.inl trivial, .inr (.signed 1), .inr (.signed 2), .inr (.signed 2), .inr (.signed 1), by simp⟩
    · have texts : (items.map fun item => Record.field item "s") =
          [.text "z", .text "b", .missing, .text "a", .text "b"] := by decide +kernel
      simp only [texts, List.forall_mem_cons]
      exact ⟨.inr (.text "z"), .inr (.text "b"), .inl trivial, .inr (.text "a"), .inr (.text "b"), by simp⟩
  exact ⟨homogeneous, sort_sorts_stably query items homogeneous⟩

end Query

end PipeQuery
