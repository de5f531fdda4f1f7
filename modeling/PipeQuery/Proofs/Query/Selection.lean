import Mathlib.Data.List.FinRange
import PipeQuery.Collection.Basic
import PipeQuery.Proofs.Query.Filtering

/-!
# What a query selects

A query returns the records of which it holds, each from a place of its own in the list. What it leaves of
a collection is the same, and to leave it again changes nothing once the comparison has put it in order.
-/

set_option autoImplicit false

namespace PipeQuery

namespace Query

variable {α : Type} [Record α]

/-! ## Places of records -/

/-- The places of the records that the query returns, in the order in which it returns them. -/
def places (query : Query) (items : List α) : List (Fin items.length) :=
  stableSort (fun left right => query.order (items.get left) (items.get right))
    ((List.finRange items.length).filter fun place => query.holds (items.get place))

theorem map_get_places (query : Query) (items : List α) :
    (query.places items).map items.get = query.filter items := by
  have kept : ((List.finRange items.length).filter fun place => query.holds (items.get place)).map items.get =
      items.filter query.holds := by
    calc
      ((List.finRange items.length).filter (query.holds ∘ items.get)).map items.get
          = ((List.finRange items.length).map items.get).filter query.holds := List.filter_map.symm
      _ = items.filter query.holds := by rw [List.map_get_finRange]
  rw [places, ← stableSort_map, kept, filter]

theorem nodup_places (query : Query) (items : List α) : (query.places items).Nodup :=
  (stableSort_perm _).nodup_iff.mpr ((List.nodup_finRange _).filter _)

theorem mem_places_iff {query : Query} {items : List α} {place : Fin items.length} :
    place ∈ query.places items ↔ query.holds (items.get place) = true := by
  rw [places, (stableSort_perm _).mem_iff, List.mem_filter]
  simp only [List.mem_finRange, true_and]

/-! ## A query after itself -/

theorem holds_of_mem_filter {query : Query} {items : List α} {item : α}
    (member : item ∈ query.filter items) : query.holds item = true := by
  rw [filter, (stableSort_perm _).mem_iff] at member
  exact (List.mem_filter.mp member).2

theorem filter_filter {query : Query} {items : List α}
    (homogeneous : ∀ key ∈ query.keys,
      FieldValue.Homogeneous (items.map fun item => Record.field item key.field)) :
    query.filter (query.filter items) = query.filter items := by
  have kept (key : SortKey) (member : key ∈ query.keys) :
      FieldValue.Homogeneous ((items.filter query.holds).map fun item => Record.field item key.field) :=
    (homogeneous key member).filter query.holds
  have ordered : (query.filter items).Pairwise fun left right => query.order left right ≠ .gt :=
    pairwise_stableSort (transCmp_order kept)
  have all : (query.filter items).filter query.holds = query.filter items :=
    List.filter_eq_self.mpr fun item member => holds_of_mem_filter member
  rw [filter, all, stableSort_of_pairwise ordered]

end Query

namespace Collection

variable {α μ : Type} [Record α]

/-- What a query leaves of a collection, with or without the shortcuts for queries that lack clauses or
keys, is what it returns of the items: the records of which it holds, each from a place of its own. On
items that are homogeneous under each key the query changes nothing when it is applied again. -/
theorem retainWhere_leaves_what_filter_returns (query : Query) (collection : Collection α μ) :
    let items := collection.items
    query.apply items = query.filter items ∧
      collection.retainWhere query = { collection with items := query.filter items } ∧
      (∃ places : List (Fin items.length), places.Nodup ∧ places.map items.get = query.filter items ∧
        ∀ place, place ∈ places ↔ query.holds (items.get place) = true) ∧
      (query.isEmpty = true → items.filter query.holds = items) ∧
      (query.keys.isEmpty = true → ∀ kept : List α, stableSort query.order kept = kept) ∧
      ((∀ key ∈ query.keys, FieldValue.Homogeneous (items.map fun item => Record.field item key.field)) →
        query.apply (query.apply items) = query.apply items) := by
  intro items
  refine ⟨query.apply_eq_filter items, ?_, ?_, ?_, ?_, ?_⟩
  · rw [retainWhere, mapItems, query.apply_eq_filter]
  · exact ⟨query.places items, query.nodup_places items, query.map_get_places items,
      fun place => Query.mem_places_iff⟩
  · exact fun empty => List.filter_eq_self.mpr fun item _ => Query.holds_of_isEmpty empty item
  · intro noKeys kept
    rw [← query.sort_eq_stableSort, Query.sort, if_pos noKeys]
  · intro homogeneous
    rw [query.apply_eq_filter, query.apply_eq_filter, Query.filter_filter homogeneous]

theorem retainWhere_leaves_numbers_in_order :
    let query : Query :=
      { alternatives := [⟨"n", .gt, .number (.signed 1)⟩, ⟨"s", .eq, .text "x"⟩],
        excluded := [⟨"s", .startsWith, .text "y"⟩], keys := [⟨"n", .descending⟩] }
    let items : List Json :=
      [.object [("s", .string "x")],
        .object [("n", .integer 2 (by decide)), ("s", .string "b")],
        .object [("n", .integer 1 (by decide))],
        .object [("n", .integer 3 (by decide)), ("s", .string "yes")],
        .object [("n", .integer 2 (by decide)), ("s", .string "a")],
        .object [("n", .integer 3 (by decide)), ("s", .string "c")]]
    (∀ key ∈ query.keys, FieldValue.Homogeneous (items.map fun item => Record.field item key.field)) ∧
      ((ofList items : Collection Json Empty).retainWhere query).items = query.filter items ∧
      query.apply (query.apply items) = query.apply items := by
  intro query items
  have homogeneous : ∀ key ∈ query.keys,
      FieldValue.Homogeneous (items.map fun item => Record.field item key.field) := by
    simp only [query, List.forall_mem_singleton]
    exact ⟨.signed, by decide +kernel⟩
  obtain ⟨-, retained, -, -, -, again⟩ :=
    retainWhere_leaves_what_filter_returns query (ofList items : Collection Json Empty)
  exact ⟨homogeneous, congrArg Collection.items retained, again homogeneous⟩

end Collection

end PipeQuery
