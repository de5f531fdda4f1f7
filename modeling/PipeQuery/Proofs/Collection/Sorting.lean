import PipeQuery.Proofs.Collection.QueryMember
import PipeQuery.Proofs.Collection.Refusal
import PipeQuery.Proofs.Query.SuccessiveSorts

/-!
# Steps that sort

Steps that sort by one key each, the least important key first, leave what one query with all the keys
leaves.
-/

set_option autoImplicit false

namespace PipeQuery

/-- A call that sorts by a key, with arguments that are accepted. -/
structure SortStep where
  args : List Argument
  key : SortKey
  spells : QueryMember.sortBy.keyOf args = .ok key

namespace SortStep

def call (step : SortStep) : Call :=
  QueryMember.sortBy.call step.args

end SortStep

theorem Direction.ofWord?_name (direction : Direction) : ofWord? direction.name = some direction := by
  cases direction <;> decide

namespace QueryMember

theorem keyOf_texts (key : SortKey) :
    sortBy.keyOf [.str key.field, .str key.direction.name] = .ok key := by
  have known : Direction.ofWord key.direction.name = .ok key.direction :=
    Direction.ofWord_eq_ok_iff.mpr key.direction.ofWord?_name
  rw [keyOf_two]
  refine bind_eq_ok_iff.mpr ⟨key.field, textOf_eq_ok_iff.mpr rfl, ?_⟩
  refine bind_eq_ok_iff.mpr ⟨key.direction.name, textOf_eq_ok_iff.mpr rfl, ?_⟩
  exact bind_eq_ok_iff.mpr ⟨key.direction, known, rfl⟩

theorem changeOf_sortBy {α : Type} [Record α] {args : List Argument} {key : SortKey}
    (read : sortBy.keyOf args = .ok key) :
    sortBy.changeOf args = .ok fun items : List α => Query.apply { keys := [key] } items :=
  map_eq_ok_iff.mpr ⟨key, read, rfl⟩

end QueryMember

namespace Collection

variable {α μ ε : Type} [Record α] [Behaviour α μ ε] {express : QueryError → ε} {collection : Collection α μ}

theorem applies_sortStep (offers : collection.Offers express .sortBy) (step : SortStep) (items : List α) :
    Chain.Applies { collection with items } step.call
      { collection with items := Query.apply { keys := [step.key] } items } :=
  offers.applies (QueryMember.changeOf_sortBy step.spells) items

theorem execute_sortSteps (offers : collection.Offers express .sortBy) {steps : List SortStep}
    (homogeneous : ∀ step ∈ steps,
      FieldValue.Homogeneous (collection.items.map fun item => Record.field item step.key.field)) :
    Chain.execute collection (steps.reverse.map SortStep.call) =
      (collection.retainWhere { keys := steps.map SortStep.key }, .ok ()) := by
  have agree : ∀ key ∈ steps.map SortStep.key,
      FieldValue.TiesAgree (collection.items.map fun item => Record.field item key.field) :=
    List.forall_mem_map.mpr fun step member => (homogeneous step member).tiesAgree
  have sorted := Query.foldr_apply_key agree
  rw [List.foldr_map] at sorted
  rw [execute_steps collection steps.reverse fun step _ => applies_sortStep offers step, retainWhere, mapItems,
    mapItems, List.foldl_reverse, sorted]

/-- Among items that are homogeneous under each of some keys, steps that sort by one key each, the last key
first, leave what the query with all the keys leaves. There are such steps for any keys. -/
theorem sorts_in_turn_are_one_query (offers : collection.Offers express .sortBy) :
    (∀ steps : List SortStep,
      (∀ step ∈ steps,
        FieldValue.Homogeneous (collection.items.map fun item => Record.field item step.key.field)) →
      Chain.execute collection (steps.reverse.map SortStep.call) =
        (collection.retainWhere { keys := steps.map SortStep.key }, .ok ())) ∧
      ∀ keys : List SortKey, ∃ steps : List SortStep, steps.map SortStep.key = keys := by
  refine ⟨fun steps homogeneous => execute_sortSteps offers homogeneous, fun keys => ?_⟩
  refine ⟨keys.map fun key => ⟨_, key, QueryMember.keyOf_texts key⟩, ?_⟩
  rw [List.map_map]
  exact List.map_id keys

theorem sorts_in_turn_of_records_with_gaps :
    let collection : Collection Json QueryMember :=
      queryable [.object [("s", .string "z")],
        .object [("n", .integer 1 (by decide)), ("s", .string "b")],
        .object [("n", .integer 2 (by decide))],
        .object [("n", .integer 1 (by decide)), ("s", .string "a")]] {}
    let byNumber : SortStep := ⟨[.bare "n", .bare "desc"], ⟨"n", .descending⟩, rfl⟩
    let byText : SortStep := ⟨[.str "s"], ⟨"s", .ascending⟩, rfl⟩
    (∀ step ∈ [byNumber, byText],
        FieldValue.Homogeneous (collection.items.map fun item => Record.field item step.key.field)) ∧
      Chain.execute collection [byText.call, byNumber.call] =
        (collection.retainWhere { keys := [byNumber.key, byText.key] }, .ok ()) := by
  intro collection byNumber byText
  have homogeneous : ∀ step ∈ [byNumber, byText],
      FieldValue.Homogeneous (collection.items.map fun item => Record.field item step.key.field) := by
    simp only [List.forall_mem_cons]
    refine ⟨⟨.signed, ?_⟩, ⟨.text, ?_⟩, by simp⟩
    · have numbers : (collection.items.map fun item => Record.field item byNumber.key.field) =
          [.missing, .number (.signed 1), .number (.signed 2), .number (.signed 1)] := by decide +kernel
      simp only [numbers, List.forall_mem_cons]
      exact ⟨.inl trivial, .inr (.signed 1), .inr (.signed 2), .inr (.signed 1), by simp⟩
    · have texts : (collection.items.map fun item => Record.field item byText.key.field) =
          [.text "z", .text "b", .missing, .text "a"] := by decide +kernel
      simp only [texts, List.forall_mem_cons]
      exact ⟨.inr (.text "z"), .inr (.text "b"), .inl trivial, .inr (.text "a"), by simp⟩
  obtain ⟨sorted, -⟩ := sorts_in_turn_are_one_query (offers_queryable collection.items {} .sortBy)
  exact ⟨homogeneous, sorted [byNumber, byText] homogeneous⟩

end Collection

end PipeQuery
