import PipeQuery.Proofs.Collection.Filtering
import PipeQuery.Proofs.Collection.Sorting
import PipeQuery.Proofs.Query.FilteredSort

/-!
# A step that sorts beside a step that filters

The two steps can stand in either order: together they leave what one query with the clause and the key
leaves.
-/

set_option autoImplicit false

namespace PipeQuery

theorem SortStep.exists_of_key (key : SortKey) : ∃ step : SortStep, step.key = key :=
  ⟨⟨_, key, QueryMember.keyOf_texts key⟩, rfl⟩

namespace Collection

variable {α μ ε : Type} [Record α] [Behaviour α μ ε] {express : QueryError → ε} {collection : Collection α μ}

theorem execute_filter_sort (sort : SortStep) (filter : FilterStep)
    (sorts : collection.Offers express .sortBy)
    (filters : collection.Offers express (QueryMember.filtering filter.excludes)) :
    Chain.execute collection [filter.call, sort.call] =
      ({ collection with
          items := Query.apply { keys := [sort.key] } (collection.items.filter filter.keeps) }, .ok ()) :=
  (Chain.Completes.cons (applies_filterStep filter filters _)
    (.cons (applies_sortStep sorts sort _) .nil)).execute_eq

theorem execute_sort_filter (sort : SortStep) (filter : FilterStep)
    (sorts : collection.Offers express .sortBy)
    (filters : collection.Offers express (QueryMember.filtering filter.excludes))
    (homogeneous : FieldValue.Homogeneous
      (collection.items.map fun item => Record.field item sort.key.field)) :
    Chain.execute collection [sort.call, filter.call] =
      ({ collection with
          items := Query.apply { keys := [sort.key] } (collection.items.filter filter.keeps) }, .ok ()) := by
  rw [Query.apply_keys_filter [sort.key] (List.forall_mem_singleton.mpr homogeneous)]
  exact (Chain.Completes.cons (applies_sortStep sorts sort _)
    (.cons (applies_filterStep filter filters _) .nil)).execute_eq

/-- Among items that are homogeneous under the field of a key, sorting by the key and then keeping or
dropping by a clause leaves what doing so in the other order leaves. There is a step for every key, whatever
its field and direction. -/
theorem sort_step_commutes_with_filter_step (sorts : collection.Offers express .sortBy)
    (keeps : collection.Offers express .keep) (drops : collection.Offers express .drop) :
    (∀ (sort : SortStep) (filter : FilterStep),
      FieldValue.Homogeneous (collection.items.map fun item => Record.field item sort.key.field) →
      let both : Query := { FilterStep.query [filter] with keys := [sort.key] }
      Chain.execute collection [sort.call, filter.call] = (collection.retainWhere both, .ok ()) ∧
        Chain.execute collection [filter.call, sort.call] = (collection.retainWhere both, .ok ())) ∧
      ∀ key : SortKey, ∃ sort : SortStep, sort.key = key := by
  refine ⟨fun sort filter homogeneous => ?_, SortStep.exists_of_key⟩
  intro both
  have filters := offers_filtering keeps drops filter.excludes
  have left : Query.apply { keys := [sort.key] } (collection.items.filter filter.keeps) =
      both.apply collection.items :=
    (congrArg (Query.apply { keys := [sort.key] }) (FilterStep.foldl_filter [filter] collection.items)).trans
      (Query.apply_with_keys _ _ _).symm
  rw [retainWhere, mapItems, ← left]
  exact ⟨execute_sort_filter sort filter sorts filters homogeneous,
    execute_filter_sort sort filter sorts filters⟩

theorem sort_step_commutes_with_dropping_of_ties :
    let collection : Collection Json QueryMember :=
      queryable [.object [("s", .string "z")],
        .object [("n", .integer 1 (by decide)), ("s", .string "b")],
        .object [("n", .integer 2 (by decide))],
        .object [("n", .integer 1 (by decide)), ("s", .string "a")],
        .object [("n", .integer 1 (by decide)), ("s", .string "ab")]] {}
    let sort : SortStep := ⟨[.bare "n", .bare "DESC"], ⟨"n", .descending⟩, rfl⟩
    let filter : FilterStep :=
      ⟨true, [.str "s", .bare "ends_with", .bare "b"], ⟨"s", .endsWith, .text "b"⟩, rfl⟩
    FieldValue.Homogeneous (collection.items.map fun item => Record.field item sort.key.field) ∧
      (filter.keeps <$> collection.items) = [true, false, true, true, false] ∧
      Chain.execute collection [sort.call, filter.call] =
        Chain.execute collection [filter.call, sort.call] := by
  intro collection sort filter
  have homogeneous : FieldValue.Homogeneous
      (collection.items.map fun item => Record.field item sort.key.field) :=
    ⟨.signed, by decide +kernel⟩
  obtain ⟨commutes, -⟩ := sort_step_commutes_with_filter_step
    (offers_queryable collection.items {} .sortBy) (offers_queryable collection.items {} .keep)
    (offers_queryable collection.items {} .drop)
  obtain ⟨sorted, filtered⟩ := commutes sort filter homogeneous
  exact ⟨homogeneous, by decide +kernel, sorted.trans filtered.symm⟩

end Collection

end PipeQuery
