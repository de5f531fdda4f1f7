import PipeQuery.Proofs.Collection.FilteredSort
import PipeQuery.Proofs.Query.Blocks

/-!
# Steps that compare with a value

A step that sorts by a field lines up what the steps keep that compare the field with a value: the lesser
items, the equal ones, the greater ones, and behind them those that lack the field.
-/

set_option autoImplicit false

namespace PipeQuery

theorem Operator.ofWord?_name (operator : Operator) : ofWord? operator.name = some operator := by
  cases operator <;> decide

/-- Arguments for a field, an operator and a value of the operator's kind are read as a clause that holds of
the blocks which the operator spans. -/
theorem QueryMember.exists_clauseOf_of_spans {field word value : Argument} {key : SortKey}
    {operator : Operator} {scale : Scale} {low high : Nat} (named : field.text? = some key.field)
    (spelled : word.text?.bind Operator.ofWord? = some operator) (spans : operator.Spans low high)
    (comparable : scale.Measures value.fieldValue) :
    ∃ clause, QueryMember.keep.clauseOf [field, word, value] = .ok clause ∧
      ∀ {α : Type} [Record α] (items : List α),
        (∀ stored ∈ items.map fun item => Record.field item key.field,
          stored = .missing ∨ scale.Measures stored) →
        items.filter (fun item => Query.clauseHolds item clause != false) =
          stretch (Query.blockOf key value.fieldValue) low high items := by
  obtain ⟨operand, read, agrees⟩ := Operand.exists_ofScalar comparable
  obtain ⟨text, worded, found⟩ := Option.bind_eq_some_iff.mp spelled
  refine ⟨⟨key.field, operator, operand⟩, ?_, fun items measured => ?_⟩
  · refine QueryMember.Filters.keep.clauseOf_eq_ok_iff.mpr (.comparison named worded found ?_)
    refine map_eq_ok_iff.mpr ⟨operand, ?_, rfl⟩
    rw [Operand.ofArgument_of_isOrdering spans.isOrdering, read]
  · refine List.filter_congr fun item member => ?_
    rw [Bool.bne_false, Query.clauseHolds]
    exact Clause.holds_eq_of_spans spans comparable agrees (measured _ (List.mem_map_of_mem member))

namespace Collection

variable {α μ ε : Type} [Record α] [Behaviour α μ ε] {express : QueryError → ε} {collection : Collection α μ}

/-- The calls succeed and leave the items. -/
def Leaves (collection : Collection α μ) (calls : List Call) (items : List α) : Prop :=
  Chain.execute collection calls = ({ collection with items }, .ok ())

variable {sort : SortStep} {field value : Argument} {scale : Scale}

theorem leaves_comparison {word : Argument} {operator : Operator} {low high : Nat}
    (sorts : collection.Offers express .sortBy) (keeps : collection.Offers express .keep)
    (named : field.text? = some sort.key.field)
    (spelled : word.text?.bind Operator.ofWord? = some operator) (spans : operator.Spans low high)
    (comparable : scale.Measures value.fieldValue)
    (measured : ∀ stored ∈ collection.items.map fun item => Record.field item sort.key.field,
      stored = .missing ∨ scale.Measures stored) :
    let comparison := QueryMember.keep.call [field, word, value]
    let kept := stretch (Query.blockOf sort.key value.fieldValue) low high collection.items
    collection.Leaves [comparison] kept ∧
      collection.Leaves [sort.call, comparison] (Query.apply { keys := [sort.key] } kept) ∧
      collection.Leaves [comparison, sort.call] (Query.apply { keys := [sort.key] } kept) := by
  intro comparison kept
  obtain ⟨clause, read, holds⟩ := QueryMember.exists_clauseOf_of_spans named spelled spans comparable
  let filter : FilterStep := ⟨false, [field, word, value], clause, read⟩
  have same : collection.items.filter filter.keeps = kept := holds collection.items measured
  unfold Leaves
  rw [← same]
  exact ⟨(applies_filterStep filter keeps collection.items).execute_cons [],
    execute_sort_filter sort filter sorts keeps ⟨scale, measured⟩, execute_filter_sort sort filter sorts keeps⟩

/-- On items whose field is missing or of one kind with a value, and numbers are of one kind and not NaN,
sorting by the field leaves what the comparisons with the value keep: the lesser items, the equal ones, the
greater ones, each of these blocks sorted, and then the items that lack the field in the order they came in.
The other two comparisons keep two adjacent blocks. -/
theorem sorted_items_are_blocks_of_comparisons (sort : SortStep) (field value : Argument)
    (word : Operator → Argument) (sorts : collection.Offers express .sortBy)
    (keeps : collection.Offers express .keep) (ascending : sort.key.direction = .ascending)
    (named : field.text? = some sort.key.field)
    (measured : ∀ stored ∈ collection.items.map fun item => Record.field item sort.key.field,
      stored = .missing ∨ scale.Measures stored)
    (comparable : scale.Measures value.fieldValue)
    (spelled : ∀ operator, (word operator).text?.bind Operator.ofWord? = some operator) :
    let comparison (operator : Operator) : Call := QueryMember.keep.call [field, word operator, value]
    let sorted (items : List α) : List α := Query.apply { keys := [sort.key] } items
    ∃ below level above : List α,
      collection.Leaves [comparison .lt] below ∧
        collection.Leaves [comparison .eq] level ∧
        collection.Leaves [comparison .gt] above ∧
        collection.Leaves [sort.call]
          (sorted below ++ sorted level ++ sorted above ++
            collection.items.filter fun item => (Record.field item sort.key.field).isMissing) ∧
        (∀ block ∈ [below, level, above], (sorted block).Perm block ∧
          (sorted block).Pairwise fun left right =>
            sort.key.order (Record.field left sort.key.field) (Record.field right sort.key.field) ≠ .gt) ∧
        ∀ kept ∈ [(.lt, sorted below), (.eq, sorted level), (.gt, sorted above),
            (.lte, sorted below ++ sorted level), (.gte, sorted level ++ sorted above)],
          collection.Leaves [sort.call, comparison kept.1] kept.2 ∧
            collection.Leaves [comparison kept.1, sort.call] kept.2 := by
  intro comparison sorted
  let block (low high : Nat) : List α :=
    stretch (Query.blockOf sort.key value.fieldValue) low high collection.items
  obtain ⟨whole, lower, upper⟩ := Query.apply_key_eq_blocks ascending comparable measured
  have compared {operator : Operator} {low high : Nat} (spans : operator.Spans low high) :=
    leaves_comparison sorts keeps named (spelled operator) spans comparable measured
  have lte : collection.Leaves [sort.call, comparison .lte] (sorted (block 0 1) ++ sorted (block 1 2)) ∧
      collection.Leaves [comparison .lte, sort.call] (sorted (block 0 1) ++ sorted (block 1 2)) := by
    rw [← lower]
    exact (compared .lte).2
  have gte : collection.Leaves [sort.call, comparison .gte] (sorted (block 1 2) ++ sorted (block 2 3)) ∧
      collection.Leaves [comparison .gte, sort.call] (sorted (block 1 2) ++ sorted (block 2 3)) := by
    rw [← upper]
    exact (compared .gte).2
  refine ⟨block 0 1, block 1 2, block 2 3, (compared .lt).1, (compared .eq).1, (compared .gt).1, ?_, ?_, ?_⟩
  · unfold Leaves
    rw [← whole]
    exact (applies_sortStep sorts sort collection.items).execute_cons []
  · have ordered := Query.sorted_stretch ⟨scale, measured⟩ (Query.blockOf sort.key value.fieldValue)
    simp only [List.forall_mem_cons]
    exact ⟨ordered 0 1, ordered 1 2, ordered 2 3, by simp⟩
  · simp only [List.forall_mem_cons]
    exact ⟨(compared .lt).2, (compared .eq).2, (compared .gt).2, lte, gte, by simp⟩

theorem sorted_numbers_are_blocks_of_comparisons :
    let collection : Collection Json QueryMember :=
      queryable [.object [("n", .integer 3 (by decide))],
        .object [("s", .string "x")],
        .object [("n", .integer 2 (by decide)), ("s", .string "b")],
        .object [("n", .integer 1 (by decide))],
        .object [("n", .integer 2 (by decide)), ("s", .string "a")]] {}
    let sort : SortStep := ⟨[.bare "n"], ⟨"n", .ascending⟩, rfl⟩
    let comparison (operator : Operator) : Call :=
      QueryMember.keep.call [.str "n", .bare operator.name, .number (.signed 2)]
    let sorted (items : List Json) : List Json := Query.apply { keys := [sort.key] } items
    (∀ stored ∈ collection.items.map fun item => Record.field item sort.key.field,
        stored = .missing ∨ Scale.signed.Measures stored) ∧
      ∃ below level above : List Json,
        collection.Leaves [comparison .lt] below ∧
          collection.Leaves [comparison .eq] level ∧
          collection.Leaves [comparison .gt] above ∧
          collection.Leaves [sort.call]
            (sorted below ++ sorted level ++ sorted above ++
              collection.items.filter fun item => (Record.field item sort.key.field).isMissing) ∧
          collection.Leaves [sort.call, comparison .lte] (sorted below ++ sorted level) ∧
          collection.Leaves [sort.call, comparison .gte] (sorted level ++ sorted above) := by
  intro collection sort comparison sorted
  have measured : ∀ stored ∈ collection.items.map fun item => Record.field item sort.key.field,
      stored = .missing ∨ Scale.signed.Measures stored := by decide +kernel
  have spelled (operator : Operator) :
      (Argument.bare operator.name).text?.bind Operator.ofWord? = some operator := by
    rw [Argument.text?, Option.bind_some, operator.ofWord?_name]
  obtain ⟨below, level, above, less, equal, greater, whole, -, compared⟩ :=
    sorted_items_are_blocks_of_comparisons sort (.str "n") (.number (.signed 2))
      (fun operator => .bare operator.name) (offers_queryable collection.items {} .sortBy)
      (offers_queryable collection.items {} .keep) rfl rfl measured (.signed 2) spelled
  simp only [List.forall_mem_cons] at compared
  obtain ⟨-, -, -, upTo, fromOn, -⟩ := compared
  exact ⟨measured, below, level, above, less, equal, greater, whole, upTo.1, fromOn.1⟩

end Collection

end PipeQuery
