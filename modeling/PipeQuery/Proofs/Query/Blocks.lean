import PipeQuery.Proofs.Collection.Refusal
import PipeQuery.Proofs.Query.FilteredSort

/-!
# Blocks of a sorted list

Sorting compares two fields, a clause compares a field with its operand, and both compare values of one
kind in the same way. So what stands before a value in the sorted list is what a clause finds less than it,
and every comparison with the value cuts one stretch out of the sorted list.
-/

set_option autoImplicit false

namespace PipeQuery

/-! ## Comparison with an operand -/

/-- The field value that a scalar argument is compared as. -/
def Argument.fieldValue : Argument → FieldValue
  | .bool value => .bool value
  | .number value => .number value
  | .str content => .text content
  | .bare word => .text word
  | .instant value => .timestamp (.ofInstant value)
  | .list _ => .missing
  | .map _ => .missing

theorem Operand.exists_ofScalar {scale : Scale} {argument : Argument}
    (comparable : scale.Measures argument.fieldValue) :
    ∃ operand, (∀ operator, Operand.ofScalar operator argument = .ok operand) ∧
      ∀ value, scale.Measures value → operand.compare? value = value.compare? argument.fieldValue := by
  cases argument with
  | bool truth =>
      refine ⟨.bool truth, fun _ => rfl, fun value measured => ?_⟩
      cases comparable
      cases measured
      rfl
  | number number =>
      refine ⟨.number number, fun _ => rfl, fun value measured => ?_⟩
      cases comparable <;> cases measured <;> rfl
  | str content =>
      refine ⟨.text content, fun _ => rfl, fun value measured => ?_⟩
      cases comparable
      cases measured
      rfl
  | bare word =>
      refine ⟨.text word, fun _ => rfl, fun value measured => ?_⟩
      cases comparable
      cases measured
      rfl
  | instant instant =>
      refine ⟨.timestamp (.ofInstant instant), fun _ => rfl, fun value measured => ?_⟩
      cases comparable
      cases measured
      rfl
  | list => cases comparable
  | map => cases comparable

theorem Operator.isText_eq_false {operator : Operator} (ordering : operator.isOrdering = true) :
    operator.isText = false := by
  cases operator <;> first | rfl | cases ordering

theorem Clause.holds_of_compare? {clause : Clause} {value : FieldValue} {outcome : Ordering}
    (ordering : clause.operator.isOrdering = true)
    (compared : clause.operand.compare? value = some outcome) :
    clause.holds value = clause.operator.holds outcome := by
  obtain ⟨field, operator, operand⟩ := clause
  have plain : operator.isText = false := Operator.isText_eq_false ordering
  cases operand with
  | text part =>
      cases value with
      | text text =>
          cases compared
          simp [holds, plain]
      | _ => cases compared
  | pattern => cases value <;> cases compared
  | set => cases value <;> cases compared
  | _ =>
      cases value with
      | missing => cases compared
      | _ => exact congrArg (Option.any operator.holds) compared

/-! ## Blocks -/

namespace FieldValue

/-- The block of a sorted list that a value stands in beside a pivot, by the order of the two: that of the
values before the pivot, of its equals, or of the values after it. -/
def blockOf : Ordering → Nat
  | .lt => 0
  | .eq => 1
  | .gt => 2

/-- The block that a value stands in beside a pivot. The missing values stand in one behind all others. -/
def block (pivot value : FieldValue) : Nat :=
  if value.isMissing then 3 else blockOf ((value.compare? pivot).getD .eq)

theorem block_missing (pivot : FieldValue) : block pivot .missing = 3 := rfl

theorem block_of_there {pivot value : FieldValue} (there : value ≠ .missing) :
    block pivot value = blockOf (value.order pivot) := by
  rw [block, isMissing_eq_false there, if_neg Bool.false_ne_true, FieldValue.order]

theorem block_of_compare? {pivot value : FieldValue} {outcome : Ordering} (there : value ≠ .missing)
    (compared : value.compare? pivot = some outcome) : block pivot value = blockOf outcome := by
  rw [block_of_there there, FieldValue.order, compared, Option.getD_some]

theorem blockOf_le_two (outcome : Ordering) : blockOf outcome ≤ 2 := by
  cases outcome <;> decide

theorem block_le_three (pivot value : FieldValue) : block pivot value ≤ 3 := by
  unfold block
  split
  · exact Nat.le_refl 3
  · exact Nat.le_succ_of_le (blockOf_le_two _)

theorem decide_block_last (pivot value : FieldValue) :
    (decide (3 ≤ block pivot value) && decide (block pivot value < 4)) = value.isMissing := by
  unfold block
  cases missing : value.isMissing with
  | true => rfl
  | false =>
      have before : ¬ 3 ≤ blockOf ((value.compare? pivot).getD .eq) :=
        Nat.not_le.mpr (Nat.lt_succ_of_le (blockOf_le_two _))
      simp [before]

/-- The blocks follow each other as the values do. -/
theorem block_le_block {key : SortKey} {scale : Scale} {pivot left right : FieldValue}
    (ascending : key.direction = .ascending) (pivotMeasured : scale.Measures pivot)
    (leftMeasured : left = .missing ∨ scale.Measures left)
    (rightMeasured : right = .missing ∨ scale.Measures right)
    (ascends : key.order left right ≠ .gt) : block pivot left ≤ block pivot right := by
  rcases rightMeasured with rfl | rightMeasured
  · exact block_le_three pivot left
  have rightThere := ne_missing_of_measures rightMeasured
  have leftThere : left ≠ .missing := by
    rintro rfl
    exact rightThere (isMissing_iff.mp (SortKey.isMissing_of_order_ne_gt ascends rfl))
  have leftMeasured := leftMeasured.resolve_left leftThere
  have pivotThere := ne_missing_of_measures pivotMeasured
  have agree : TiesAgree [left, right, pivot] := by
    refine Homogeneous.tiesAgree ⟨scale, ?_⟩
    simp only [List.forall_mem_cons]
    exact ⟨.inr leftMeasured, .inr rightMeasured, .inr pivotMeasured, by simp⟩
  have lawful := SortKey.transCmp_order key agree
  let a : {value // value ∈ [left, right, pivot]} := ⟨left, by simp⟩
  let b : {value // value ∈ [left, right, pivot]} := ⟨right, by simp⟩
  let c : {value // value ∈ [left, right, pivot]} := ⟨pivot, by simp⟩
  have inOrder : (key.order a.1 b.1).isLE = true := Ordering.isLE_iff_ne_gt.mpr ascends
  have leftBlock : block pivot left = blockOf (key.order a.1 c.1) := by
    rw [SortKey.order_of_there leftThere pivotThere, ascending]
    exact block_of_there leftThere
  have rightBlock : block pivot right = blockOf (key.order b.1 c.1) := by
    rw [SortKey.order_of_there rightThere pivotThere, ascending]
    exact block_of_there rightThere
  rw [leftBlock, rightBlock]
  cases outcome : key.order b.1 c.1 with
  | lt =>
      have before : key.order a.1 c.1 = .lt := lawful.lt_of_isLE_of_lt inOrder outcome
      exact Nat.le_of_eq (congrArg blockOf before)
  | eq =>
      have level : (key.order a.1 c.1).isLE = true := lawful.isLE_trans inOrder (by rw [outcome]; rfl)
      cases beside : key.order a.1 c.1 with
      | gt => simp [beside] at level
      | _ => decide
  | gt => exact blockOf_le_two _

end FieldValue

/-- An operator that holds of the values in one stretch of blocks, from the first number on and before the
second. -/
inductive Operator.Spans : Operator → Nat → Nat → Prop where
  | lt : Spans .lt 0 1
  | eq : Spans .eq 1 2
  | gt : Spans .gt 2 3
  | lte : Spans .lte 0 2
  | gte : Spans .gte 1 3

theorem Operator.Spans.isOrdering {operator : Operator} {low high : Nat} (spans : operator.Spans low high) :
    operator.isOrdering = true := by
  cases spans <;> rfl

theorem Operator.Spans.holds_eq {operator : Operator} {low high : Nat} (spans : operator.Spans low high)
    (outcome : Ordering) :
    operator.holds outcome =
      (decide (low ≤ FieldValue.blockOf outcome) && decide (FieldValue.blockOf outcome < high)) := by
  cases spans <;> cases outcome <;> rfl

theorem Operator.Spans.le_three {operator : Operator} {low high : Nat} (spans : operator.Spans low high) :
    high ≤ 3 := by
  cases spans <;> decide

/-- A comparison with a value holds of the values in the blocks that its operator spans, and of no missing
one. -/
theorem Clause.holds_eq_of_spans {clause : Clause} {scale : Scale} {pivot value : FieldValue} {low high : Nat}
    (spans : clause.operator.Spans low high) (pivotMeasured : scale.Measures pivot)
    (agrees : ∀ value, scale.Measures value → clause.operand.compare? value = value.compare? pivot)
    (measured : value = .missing ∨ scale.Measures value) :
    clause.holds value =
      (decide (low ≤ FieldValue.block pivot value) && decide (FieldValue.block pivot value < high)) := by
  rcases measured with rfl | measured
  · rw [Clause.holds_missing, FieldValue.block_missing]
    simp [spans.le_three]
  · obtain ⟨outcome, compared⟩ := FieldValue.exists_compare?_of_measures measured pivotMeasured
    rw [Clause.holds_of_compare? spans.isOrdering ((agrees value measured).trans compared),
      FieldValue.block_of_compare? (FieldValue.ne_missing_of_measures measured) compared, spans.holds_eq]

/-! ## Stretches of a list -/

section Stretches

variable {α : Type} (rank : α → Nat)

/-- The items whose ranks are not below the first number and below the second. -/
def stretch (low high : Nat) (items : List α) : List α :=
  items.filter fun item => decide (low ≤ rank item) && decide (rank item < high)

variable {rank} {items : List α} {low middle high : Nat}

/-- In a list in order of ranks the stretches follow each other. -/
theorem stretch_append (ordered : items.Pairwise fun left right => rank left ≤ rank right)
    (lower : low ≤ middle) (upper : middle ≤ high) :
    stretch rank low high items = stretch rank low middle items ++ stretch rank middle high items := by
  induction items with
  | nil => rfl
  | cons head items ih =>
      have later := ih ordered.of_cons
      by_cases first : rank head < middle
      · have notSecond : ¬ middle ≤ rank head := Nat.not_le.mpr first
        have inside : rank head < high := Nat.lt_of_lt_of_le first upper
        unfold stretch at later ⊢
        simp only [List.filter_cons, first, notSecond, inside, later]
        simp only [decide_true, decide_false, Bool.and_true, Bool.false_eq_true, ↓reduceIte]
        split <;> rfl
      · -- No item from here on is in the first stretch.
        have above : ∀ item ∈ head :: items, middle ≤ rank item := by
          intro item member
          rcases List.mem_cons.mp member with rfl | later
          · exact Nat.not_lt.mp first
          · exact Nat.le_trans (Nat.not_lt.mp first) (List.rel_of_pairwise_cons ordered later)
        have none : stretch rank low middle (head :: items) = [] :=
          List.filter_eq_nil_iff.mpr fun item member => by simp [above item member]
        rw [none, List.nil_append]
        refine List.filter_congr fun item member => ?_
        simp [above item member, Nat.le_trans lower (above item member)]

end Stretches

/-! ## Blocks of sorted records -/

namespace Query

variable {α : Type} [Record α] {items : List α} {key : SortKey} {scale : Scale} {pivot : FieldValue}

/-- The number of the block that an item stands in when the items are sorted by the key. -/
def blockOf (key : SortKey) (pivot : FieldValue) (item : α) : Nat :=
  FieldValue.block pivot (Record.field item key.field)

theorem pairwise_order
    (homogeneous : FieldValue.Homogeneous (items.map fun item => Record.field item key.field)) :
    (Query.apply { keys := [key] } items).Pairwise fun left right =>
      key.order (Record.field left key.field) (Record.field right key.field) ≠ .gt := by
  rw [apply_keys]
  refine (pairwise_stableSort (SortKey.transCmp_compareAll ?_)).imp SortKey.order_ne_gt_of_compareAll
  exact List.forall_mem_singleton.mpr homogeneous.tiesAgree

theorem sorted_stretch
    (homogeneous : FieldValue.Homogeneous (items.map fun item => Record.field item key.field))
    (rank : α → Nat) (low high : Nat) :
    (Query.apply { keys := [key] } (stretch rank low high items)).Perm (stretch rank low high items) ∧
      (Query.apply { keys := [key] } (stretch rank low high items)).Pairwise fun left right =>
        key.order (Record.field left key.field) (Record.field right key.field) ≠ .gt := by
  refine ⟨?_, pairwise_order (homogeneous.filter _)⟩
  rw [apply_keys]
  exact stableSort_perm _

theorem apply_key_stretch
    (homogeneous : FieldValue.Homogeneous (items.map fun item => Record.field item key.field))
    (rank : α → Nat) (low high : Nat) :
    Query.apply { keys := [key] } (stretch rank low high items) =
      stretch rank low high (Query.apply { keys := [key] } items) :=
  apply_keys_filter [key] (List.forall_mem_singleton.mpr homogeneous) _

theorem apply_key_of_lacking
    (lacking : ∀ item ∈ items, (Record.field item key.field).isMissing = true) :
    Query.apply { keys := [key] } items = items := by
  rw [apply_keys]
  refine stableSort_of_pairwise (List.pairwise_of_forall_mem_list fun left leftMember right rightMember => ?_)
  simp [SortKey.compareAll, SortKey.compare?, lacking left leftMember, lacking right rightMember]

theorem apply_key_lacking (pivot : FieldValue) (items : List α) :
    Query.apply { keys := [key] } (stretch (blockOf key pivot) 3 4 items) =
      items.filter fun item => (Record.field item key.field).isMissing := by
  have lacking : stretch (blockOf key pivot) 3 4 items =
      items.filter fun item => (Record.field item key.field).isMissing :=
    List.filter_congr fun item _ => FieldValue.decide_block_last pivot _
  rw [lacking]
  exact apply_key_of_lacking fun item member => (List.mem_filter.mp member).2

theorem pairwise_blockOf (ascending : key.direction = .ascending) (pivotMeasured : scale.Measures pivot)
    (measured : ∀ value ∈ items.map fun item => Record.field item key.field,
      value = .missing ∨ scale.Measures value) :
    (Query.apply { keys := [key] } items).Pairwise fun left right =>
      blockOf key pivot left ≤ blockOf key pivot right := by
  have sorted {item : α} (member : item ∈ Query.apply { keys := [key] } items) :=
    measured _ (List.mem_map_of_mem ((apply_subperm _ items).subset member))
  exact (pairwise_order ⟨scale, measured⟩).imp_of_mem fun left right ascends =>
    FieldValue.block_le_block ascending pivotMeasured (sorted left) (sorted right) ascends

/-- In the sorted list the blocks follow each other, those before, beside and after the pivot and the items
that lack the field. -/
theorem apply_key_eq_blocks (ascending : key.direction = .ascending) (pivotMeasured : scale.Measures pivot)
    (measured : ∀ value ∈ items.map fun item => Record.field item key.field,
      value = .missing ∨ scale.Measures value) :
    let sorted (low high : Nat) : List α :=
      Query.apply { keys := [key] } (stretch (blockOf key pivot) low high items)
    Query.apply { keys := [key] } items =
        sorted 0 1 ++ sorted 1 2 ++ sorted 2 3 ++
          items.filter (fun item => (Record.field item key.field).isMissing) ∧
      sorted 0 2 = sorted 0 1 ++ sorted 1 2 ∧ sorted 1 3 = sorted 1 2 ++ sorted 2 3 := by
  intro sorted
  have joined {low middle high : Nat} (lower : low ≤ middle) (upper : middle ≤ high) :
      sorted low high = sorted low middle ++ sorted middle high := by
    simp only [sorted, apply_key_stretch ⟨scale, measured⟩]
    exact stretch_append (pairwise_blockOf ascending pivotMeasured measured) lower upper
  have whole : stretch (blockOf key pivot) 0 4 items = items :=
    List.filter_eq_self.mpr fun item _ => by
      have inside : blockOf key pivot item < 4 := Nat.lt_succ_of_le (FieldValue.block_le_three _ _)
      simp [inside]
  refine ⟨?_, joined (by decide) (by decide), joined (by decide) (by decide)⟩
  calc
    Query.apply { keys := [key] } items = sorted 0 4 := congrArg _ whole.symm
    _ = sorted 0 1 ++ sorted 1 2 ++ sorted 2 3 ++ sorted 3 4 := by
      rw [joined (Nat.zero_le 3) (Nat.le_succ 3), joined (Nat.zero_le 2) (Nat.le_succ 2),
        joined (Nat.zero_le 1) (Nat.le_succ 1)]
    _ = _ := congrArg (_ ++ ·) (apply_key_lacking pivot items)

end Query

end PipeQuery
