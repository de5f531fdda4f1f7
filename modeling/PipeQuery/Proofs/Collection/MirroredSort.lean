import PipeQuery.Proofs.Collection.Blocks
import PipeQuery.Proofs.Query.MirroredSort

/-!
# A descending step beside an ascending one

Sorting in descending order leaves what sorting in ascending order leaves between two reversals, as far as
the items have the field. Items that lack it come last in both directions, so they are no part of the mirror
image.
-/

set_option autoImplicit false

namespace PipeQuery

namespace QueryMember

theorem changeOf_reverse {α : Type} [Record α] :
    reverse.changeOf [] = .ok (List.reverse : List α → List α) := rfl

end QueryMember

namespace Collection

variable {α μ ε : Type} [Record α] [Behaviour α μ ε] {express : QueryError → ε} {collection : Collection α μ}

/-- The calls that sort between two reversals. -/
def mirroring (sort : SortStep) : List Call :=
  [QueryMember.reverse.call [], sort.call, QueryMember.reverse.call []]

theorem leaves_mirrored (sorts : collection.Offers express .sortBy)
    (reverses : collection.Offers express .reverse) (sort : SortStep) (items : List α) :
    { collection with items }.Leaves (mirroring sort)
      (Query.apply { keys := [sort.key] } items.reverse).reverse :=
  (Chain.Completes.cons (reverses.applies QueryMember.changeOf_reverse items)
    (.cons (applies_sortStep sorts sort _)
      (.cons (reverses.applies QueryMember.changeOf_reverse _) .nil))).execute_eq

theorem leaves_sorted (sorts : collection.Offers express .sortBy) (sort : SortStep) :
    collection.Leaves [sort.call] (Query.apply { keys := [sort.key] } collection.items) :=
  (applies_sortStep sorts sort collection.items).execute_cons []

/-- On items that are homogeneous under a field, a step that sorts by it in descending order leaves what a
step in ascending order between two reversals leaves of the items that have the field, and behind these the
items that lack it in the order they came in. Where no item lacks the field, the two runs are the same.
Items that are equal under the key stay in the order they came in. Every field has steps for both
directions. -/
theorem descending_sort_mirrors_ascending_sort (field : String) (sorts : collection.Offers express .sortBy)
    (reverses : collection.Offers express .reverse)
    (homogeneous : FieldValue.Homogeneous (collection.items.map fun item => Record.field item field)) :
    (∀ up down : SortStep, up.key = ⟨field, .ascending⟩ → down.key = ⟨field, .descending⟩ →
      let having := collection.items.filter fun item => !(Record.field item field).isMissing
      let lacking := collection.items.filter fun item => (Record.field item field).isMissing
      ((∀ item ∈ collection.items, (Record.field item field).isMissing = false) →
        Chain.execute collection [down.call] = Chain.execute collection (mirroring up)) ∧
      ∃ mirrored : List α,
        { collection with items := having }.Leaves (mirroring up) mirrored ∧
          collection.Leaves [down.call] (mirrored ++ lacking) ∧
          ∀ item ∈ collection.items,
            let equal (other : α) : Bool :=
              down.key.order (Record.field item field) (Record.field other field) == .eq
            (mirrored ++ lacking).filter equal = collection.items.filter equal) ∧
      ∃ up down : SortStep, up.key = ⟨field, .ascending⟩ ∧ down.key = ⟨field, .descending⟩ := by
  refine ⟨fun up down ascending descending => ?_, ?_⟩
  · intro having lacking
    have sorted := leaves_sorted sorts down
    refine ⟨fun there => ?_, (Query.apply { keys := [up.key] } having.reverse).reverse,
      leaves_mirrored sorts reverses up having, ?_⟩
    · have mirrored : Chain.execute collection (mirroring up) = _ :=
        leaves_mirrored sorts reverses up collection.items
      rw [sorted, mirrored, ascending, descending, Query.apply_key_descending homogeneous there]
    · have image : Query.apply { keys := [down.key] } collection.items =
          (Query.apply { keys := [up.key] } having.reverse).reverse ++ lacking := by
        have there : ∀ item ∈ having, (Record.field item field).isMissing = false :=
          fun item member => by simpa using (List.mem_filter.mp member).2
        rw [ascending, descending, ← Query.apply_key_descending (homogeneous.filter _) there]
        exact Query.apply_key_eq_append_lacking homogeneous
      rw [← image]
      refine ⟨sorted, fun item member => ?_⟩
      have agree : ∀ key ∈ [down.key],
          FieldValue.TiesAgree (collection.items.map fun item => Record.field item key.field) := by
        rw [descending]
        exact List.forall_mem_singleton.mpr homogeneous.tiesAgree
      have kept := filter_stableSort (SortKey.transCmp_compareAll agree) member
      simp only [SortKey.compareAll_singleton, ← Query.apply_keys] at kept
      rwa [descending] at kept ⊢
  · obtain ⟨up, ascending⟩ := SortStep.exists_of_key ⟨field, .ascending⟩
    obtain ⟨down, descending⟩ := SortStep.exists_of_key ⟨field, .descending⟩
    exact ⟨up, down, ascending, descending⟩

theorem descending_sort_mirrors_numbers_with_ties_and_gaps :
    let collection : Collection Json QueryMember :=
      queryable [.object [("n", .integer 1 (by decide)), ("s", .string "a")],
        .object [("s", .string "b")],
        .object [("n", .integer 2 (by decide))],
        .object [("n", .integer 1 (by decide)), ("s", .string "c")],
        .object [("n", .null), ("s", .string "d")]] {}
    let up : SortStep := ⟨[.bare "n"], ⟨"n", .ascending⟩, rfl⟩
    let down : SortStep := ⟨[.str "n", .bare "desc"], ⟨"n", .descending⟩, rfl⟩
    FieldValue.Homogeneous (collection.items.map fun item => Record.field item "n") ∧
      ∃ mirrored : List Json,
        (queryable (collection.items.filter fun item => !(Record.field item "n").isMissing) {}).Leaves
            (mirroring up) mirrored ∧
          collection.Leaves [down.call]
            (mirrored ++ collection.items.filter fun item => (Record.field item "n").isMissing) := by
  intro collection up down
  have homogeneous : FieldValue.Homogeneous (collection.items.map fun item => Record.field item "n") :=
    ⟨.signed, by decide +kernel⟩
  obtain ⟨mirrors, -⟩ := descending_sort_mirrors_ascending_sort "n"
    (offers_queryable collection.items {} .sortBy) (offers_queryable collection.items {} .reverse) homogeneous
  obtain ⟨-, mirrored, ascending, descending, -⟩ := mirrors up down rfl rfl
  exact ⟨homogeneous, mirrored, ascending, descending⟩

end Collection

end PipeQuery
