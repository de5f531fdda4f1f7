import PipeQuery.Proofs.Query.Sorting

/-!
# Sorts one after another

A list that is in order is determined by the order in which each of its items stands among its equals.
Hence sorting by several keys is sorting by each of them in turn, the least important first: a pass keeps
what the passes before it have done to the items that it finds equal.
-/

set_option autoImplicit false

namespace PipeQuery

/-! ## Lists in order -/

section Ordered

variable {α : Type} {compare : α → α → Ordering} [Std.TransCmp compare]

theorem compare_self_beq (item : α) : (compare item item == .eq) = true :=
  beq_iff_eq.mpr Std.ReflCmp.compare_self

theorem mem_iff_of_equals {left right : List α} {item : α}
    (equals : left.filter (fun other => compare item other == .eq) =
      right.filter fun other => compare item other == .eq) : item ∈ left ↔ item ∈ right := by
  have same : (item ∈ left.filter fun other => compare item other == .eq) ↔
      item ∈ right.filter fun other => compare item other == .eq := by rw [equals]
  simpa [compare_self_beq item] using same

theorem compare_head_ne_gt {head other : α} {items : List α}
    (ordered : (head :: items).Pairwise fun left right => compare left right ≠ .gt)
    (member : other ∈ head :: items) : compare head other ≠ .gt := by
  rcases List.mem_cons.mp member with rfl | later
  · have same : compare other other = .eq := Std.ReflCmp.compare_self
    simp [same]
  · exact List.rel_of_pairwise_cons ordered later

/-- Two lists in order are the same if every item has the same equals in both, in the same order. -/
theorem eq_of_ordered {left right : List α}
    (leftOrdered : left.Pairwise fun one other => compare one other ≠ .gt)
    (rightOrdered : right.Pairwise fun one other => compare one other ≠ .gt)
    (equals : ∀ item, left.filter (fun other => compare item other == .eq) =
      right.filter fun other => compare item other == .eq) : left = right := by
  induction left generalizing right with
  | nil =>
      symm
      refine List.eq_nil_iff_forall_not_mem.mpr fun item member => ?_
      exact List.not_mem_nil ((mem_iff_of_equals (equals item)).mpr member)
  | cons head left ih =>
      cases right with
      | nil => cases (mem_iff_of_equals (equals head)).mp List.mem_cons_self
      | cons other right =>
          -- Each head is least in both lists, so the two are equal and lead the same class of equals.
          have ascends := compare_head_ne_gt leftOrdered
            ((mem_iff_of_equals (equals other)).mpr List.mem_cons_self)
          have descends := compare_head_ne_gt rightOrdered
            ((mem_iff_of_equals (equals head)).mp List.mem_cons_self)
          have level := Std.OrientedCmp.isLE_antisymm (Ordering.isLE_iff_ne_gt.mpr ascends)
            (Ordering.isLE_iff_ne_gt.mpr descends)
          have leaders := equals head
          simp only [List.filter_cons, compare_self_beq, level, beq_self_eq_true, ↓reduceIte,
            List.cons.injEq] at leaders
          obtain rfl := leaders.1
          have others (item : α) : left.filter (fun other => compare item other == .eq) =
              right.filter fun other => compare item other == .eq := by
            have same := equals item
            simp only [List.filter_cons] at same
            split at same
            · exact (List.cons.inj same).2
            · exact same
          rw [ih leftOrdered.of_cons rightOrdered.of_cons others]

end Ordered

/-! ## Passes of a stable sort -/

section Passes

variable {α : Type} {first second : α → α → Ordering}

/-- In a list that a first comparison has in order, and whose classes of equals a second one has in order,
the two together have all items in order. -/
theorem pairwise_compareLex {items : List α}
    (ordered : items.Pairwise fun left right => first left right ≠ .gt)
    (equals : ∀ item, (items.filter fun other => first item other == .eq).Pairwise
      fun left right => second left right ≠ .gt) [Std.TransCmp first] :
    items.Pairwise fun left right => compareLex first second left right ≠ .gt := by
  refine List.pairwise_iff_forall_sublist.mpr fun {left right} sublist => ?_
  have ascends := List.pairwise_iff_forall_sublist.mp ordered sublist
  unfold compareLex
  cases outcome : first left right with
  | lt => simp
  | gt => exact absurd outcome ascends
  | eq =>
      have among : [left, right].Sublist (items.filter fun other => first left other == .eq) := by
        simpa [compare_self_beq, outcome] using sublist.filter fun other => first left other == .eq
      exact List.pairwise_iff_forall_sublist.mp (equals left) among

theorem filter_compareLex (item : α) (items : List α) :
    items.filter (fun other => compareLex first second item other == .eq) =
      (items.filter fun other => first item other == .eq).filter fun other =>
        second item other == .eq := by
  rw [List.filter_filter]
  refine List.filter_congr fun other _ => ?_
  rw [compareLex]
  cases first item other <;> simp

/-- Sorting stably by a second comparison and then by a first one is sorting by the first, where the
second decides between equals. -/
theorem stableSort_stableSort [Std.TransCmp first] [Std.TransCmp second] (items : List α) :
    stableSort first (stableSort second items) = stableSort (compareLex first second) items := by
  have kept (item : α) : (stableSort first (stableSort second items)).filter
      (fun other => first item other == .eq) = (stableSort second items).filter
        fun other => first item other == .eq := filter_stableSort_of_lawful item _
  have ordered : (stableSort (compareLex first second) items).Pairwise
      fun left right => compareLex first second left right ≠ .gt := pairwise_stableSort_of_lawful items
  refine eq_of_ordered ?_ ordered ?_
  · refine pairwise_compareLex (pairwise_stableSort_of_lawful _) fun item => ?_
    rw [kept item]
    exact (pairwise_stableSort_of_lawful items).filter _
  · intro item
    calc
      (stableSort first (stableSort second items)).filter
            (fun other => compareLex first second item other == .eq)
          = ((stableSort second items).filter fun other => first item other == .eq).filter
              fun other => second item other == .eq := by rw [filter_compareLex, kept item]
      _ = ((stableSort second items).filter fun other => second item other == .eq).filter
              fun other => first item other == .eq := by
            rw [List.filter_filter, List.filter_filter]
            simp only [Bool.and_comm]
      _ = items.filter fun other => compareLex first second item other == .eq := by
            rw [filter_stableSort_of_lawful, filter_compareLex, List.filter_filter, List.filter_filter]
            simp only [Bool.and_comm]
      _ = (stableSort (compareLex first second) items).filter
              fun other => compareLex first second item other == .eq :=
            (filter_stableSort_of_lawful item items).symm

end Passes

/-! ## Keys one after another -/

namespace SortKey

variable {α : Type} {field : α → String → FieldValue}

theorem compareAll_cons_eq_compareLex (key : SortKey) (later : List SortKey) :
    (compareAll field (key :: later) : α → α → Ordering) =
      compareLex (compareAll field [key]) (compareAll field later) := by
  funext left right
  rw [compareLex, compareAll_cons, compareAll_cons, compareAll, Ordering.then_eq]

/-- Among items whose ties agree under each key, sorting by all keys is sorting by the later ones and then by
the first. -/
theorem stableSort_compareAll_cons (key : SortKey) (later : List SortKey) {items : List α}
    (agree : ∀ other ∈ key :: later, FieldValue.TiesAgree (items.map fun item => field item other.field)) :
    stableSort (compareAll field [key]) (stableSort (compareAll field later) items) =
      stableSort (compareAll field (key :: later)) items := by
  have onFirst : Std.TransCmp fun left right : {item // item ∈ items} =>
      compareAll field [key] left.1 right.1 :=
    transCmp_compareAll fun other member =>
      agree other (List.mem_cons.mpr (.inl (List.mem_singleton.mp member)))
  have onLater : Std.TransCmp fun left right : {item // item ∈ items} =>
      compareAll field later left.1 right.1 :=
    transCmp_compareAll fun other member => agree other (List.mem_cons_of_mem _ member)
  have passes := @stableSort_stableSort _ (fun left right : {item // item ∈ items} =>
      compareAll field [key] left.1 right.1)
    (fun left right => compareAll field later left.1 right.1) onFirst onLater items.attach
  rw [← List.attach_map_subtype_val items, stableSort_map, stableSort_map, stableSort_map, passes,
    compareAll_cons_eq_compareLex key later]
  rfl

end SortKey

namespace Query

variable {α : Type} [Record α]

theorem apply_keys (keys : List SortKey) (items : List α) :
    Query.apply { keys } items = stableSort (SortKey.compareAll Record.field keys) items :=
  sort_eq_stableSort { keys } items

theorem foldr_apply_key {keys : List SortKey} {items : List α}
    (agree : ∀ key ∈ keys, FieldValue.TiesAgree (items.map fun item => Record.field item key.field)) :
    keys.foldr (fun key sorted => Query.apply { keys := [key] } sorted) items =
      Query.apply { keys } items := by
  induction keys with
  | nil => rfl
  | cons key later ih =>
      rw [List.foldr_cons, ih fun other member => agree other (List.mem_cons_of_mem _ member),
        apply_keys, apply_keys, apply_keys, SortKey.stableSort_compareAll_cons key later agree]

end Query

end PipeQuery
