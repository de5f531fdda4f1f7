import Mathlib.Data.List.Perm.Subperm
import PipeQuery.Proofs.Query.Sorting

/-!
# Filtered records

A query leaves the records of which it holds, sorted. So it never adds a record, and without keys it keeps
the records in their order.
-/

set_option autoImplicit false

namespace PipeQuery

theorem Clause.holds_missing (clause : Clause) : clause.holds .missing = false := by
  rw [holds]

namespace Query

variable {α : Type} [Record α]

theorem holds_of_isEmpty {query : Query} (empty : query.isEmpty = true) (item : α) :
    query.holds item = true := by
  simp only [isEmpty, Bool.and_eq_true, List.isEmpty_iff] at empty
  obtain ⟨⟨required, alternatives⟩, excluded⟩ := empty
  simp [holds, required, alternatives, excluded]

theorem apply_eq_sort_filter (query : Query) (items : List α) :
    query.apply items = query.sort (items.filter query.holds) := by
  rw [apply]
  split
  next empty => rw [List.filter_eq_self.mpr fun item _ => holds_of_isEmpty empty item]
  next => rfl

/-- What a query leaves of a collection is what it keeps of the collection's records. -/
theorem apply_eq_filter (query : Query) (items : List α) : query.apply items = query.filter items := by
  rw [apply_eq_sort_filter, sort_eq_stableSort, filter]

theorem apply_of_keys_eq_nil {query : Query} (unsorted : query.keys = []) (items : List α) :
    query.apply items = items.filter query.holds := by
  rw [apply_eq_sort_filter, sort, unsorted]
  rfl

/-- Clauses and keys work one after the other. -/
theorem apply_with_keys (query : Query) (keys : List SortKey) (items : List α) :
    Query.apply { query with keys } items = Query.apply { keys } (items.filter query.holds) := by
  rw [apply_eq_sort_filter]
  rfl

theorem apply_subperm (query : Query) (items : List α) : (query.apply items).Subperm items := by
  rw [apply_eq_filter, filter]
  exact (stableSort_perm _).subperm.trans List.filter_sublist.subperm

theorem apply_sublist {query : Query} (unsorted : query.keys = []) (items : List α) :
    (query.apply items).Sublist items := by
  rw [apply_of_keys_eq_nil unsorted]
  exact List.filter_sublist

/-- A clause of a field that a record lacks does not hold of it, whatever the clause asks for. -/
theorem clauseHolds_of_missing {item : α} {clause : Clause}
    (missing : Record.field item clause.field = .missing) : clauseHolds item clause = false := by
  rw [clauseHolds, missing, Clause.holds_missing]

end Query

end PipeQuery
