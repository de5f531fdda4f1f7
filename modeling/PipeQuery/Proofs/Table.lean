import PipeQuery.Table

/-!
# Tables in the order of their keys

Entries in strictly increasing order of their keys are a table already: putting them in one after the
other gives them back. The table of any list of entries is in this order and has no entries but those of
the list. Looking up a key finds what was put under it last.
-/

set_option autoImplicit false

namespace PipeQuery.Table

variable {α : Type}

/-- The keys increase strictly. -/
def Sorted (table : Table α) : Prop :=
  table.keys.Pairwise fun left right => compare left right = .lt

theorem insert_eq_append {table : Table α} {key : String} {value : α}
    (greatest : ∀ entry ∈ table, compare entry.1 key = .lt) :
    insert key value table = table ++ [(key, value)] := by
  induction table with
  | nil => rfl
  | cons entry table ih =>
      have after : compare key entry.1 = .gt :=
        Std.OrientedCmp.gt_of_lt (greatest entry List.mem_cons_self)
      simp only [insert, after, List.cons_append]
      rw [ih fun other member => greatest other (List.mem_cons_of_mem _ member)]

/-- A sorted table is what its entries make up. -/
theorem ofList_of_sorted {entries : Table α} (sorted : Sorted entries) : ofList entries = entries := by
  -- The entries put in so far are a prefix, and each further one comes after all of them.
  have further : ∀ remaining before : Table α, Sorted (before ++ remaining) →
      remaining.foldl (fun table entry => insert entry.1 entry.2 table) before =
        before ++ remaining := by
    intro remaining
    induction remaining with
    | nil => simp
    | cons entry remaining ih =>
        intro before sorted
        have greatest : ∀ other ∈ before, compare other.1 entry.1 = .lt := by
          intro other member
          rw [Sorted, keys, List.map_append, List.pairwise_append] at sorted
          exact sorted.2.2 other.1 (List.mem_map_of_mem member) entry.1 (by simp)
        rw [List.foldl_cons, insert_eq_append greatest, ih _ (by simpa using sorted)]
        simp
  exact further entries [] sorted

theorem mem_of_mem_insert {table : Table α} {key : String} {value : α} {entry : String × α}
    (member : entry ∈ insert key value table) : entry = (key, value) ∨ entry ∈ table := by
  induction table with
  | nil => exact .inl (List.mem_singleton.mp member)
  | cons head table ih =>
      simp only [insert] at member
      split at member
      · exact List.mem_cons.mp member
      · exact (List.mem_cons.mp member).imp_right (List.mem_cons_of_mem _)
      · rcases List.mem_cons.mp member with same | member
        · exact .inr (same ▸ List.mem_cons_self)
        · exact (ih member).imp_right (List.mem_cons_of_mem _)

theorem mem_of_mem_ofList {entries : List (String × α)} {entry : String × α}
    (member : entry ∈ ofList entries) : entry ∈ entries := by
  have further : ∀ (remaining : List (String × α)) (table : Table α), entry ∈ remaining.foldl
      (fun table other => insert other.1 other.2 table) table → entry ∈ remaining ∨ entry ∈ table := by
    intro remaining
    induction remaining with
    | nil => exact fun table member => .inr member
    | cons other remaining ih =>
        intro table member
        rcases ih _ member with later | inserted
        · exact .inl (List.mem_cons_of_mem _ later)
        rcases mem_of_mem_insert inserted with rfl | earlier
        · exact .inl List.mem_cons_self
        · exact .inr earlier
  exact (further entries [] member).resolve_right (by simp)

theorem sorted_cons_iff {entry : String × α} {table : Table α} :
    Sorted (entry :: table) ↔ (∀ other ∈ table, compare entry.1 other.1 = .lt) ∧ Sorted table := by
  simp [Sorted, keys, List.pairwise_cons]

theorem sorted_insert {table : Table α} (sorted : Sorted table) (key : String) (value : α) :
    Sorted (insert key value table) := by
  induction table with
  | nil => simp [insert, Sorted, keys]
  | cons head table ih =>
      obtain ⟨least, rest⟩ := sorted_cons_iff.mp sorted
      simp only [insert]
      split
      next before =>
        refine sorted_cons_iff.mpr ⟨fun other member => ?_, sorted⟩
        rcases List.mem_cons.mp member with rfl | member
        · exact before
        · exact Std.TransCmp.lt_trans before (least other member)
      next same =>
        obtain rfl := Std.LawfulEqOrd.eq_of_compare same
        exact sorted_cons_iff.mpr ⟨least, rest⟩
      next after =>
        refine sorted_cons_iff.mpr ⟨fun other member => ?_, ih rest⟩
        rcases mem_of_mem_insert member with rfl | member
        · exact Std.OrientedCmp.lt_of_gt after
        · exact least other member

theorem sorted_ofList (entries : List (String × α)) : Sorted (ofList entries) := by
  have further : ∀ (remaining : List (String × α)) (table : Table α), Sorted table →
      Sorted (remaining.foldl (fun table entry => insert entry.1 entry.2 table) table) := by
    intro remaining
    induction remaining with
    | nil => exact fun table sorted => sorted
    | cons entry remaining ih => exact fun table sorted => ih _ (sorted_insert sorted entry.1 entry.2)
  exact further entries [] .nil

/-! ## Looking up keys -/

theorem find?_insert_self (key : String) (value : α) (table : Table α) :
    find? (insert key value table) key = some value := by
  induction table with
  | nil => simp [insert, find?]
  | cons head table ih =>
      simp only [insert]
      split
      · simp [find?]
      · simp [find?]
      next after =>
        have different : (key == head.1) = false := by
          rw [beq_eq_false_iff_ne]
          rintro rfl
          simp at after
        rw [find?, List.lookup_cons, different]
        exact ih

theorem find?_insert_of_ne {other key : String} (different : other ≠ key) (value : α) (table : Table α) :
    find? (insert key value table) other = find? table other := by
  have distinct : (other == key) = false := beq_eq_false_iff_ne.mpr different
  induction table with
  | nil => simpa [insert, find?] using different
  | cons head table ih =>
      simp only [insert]
      split
      next => rw [find?, List.lookup_cons, distinct, find?]
      next same =>
        obtain rfl := Std.LawfulEqOrd.eq_of_compare same
        rw [find?, find?, List.lookup_cons, List.lookup_cons, distinct]
      next =>
        rw [find?, find?, List.lookup_cons, List.lookup_cons]
        split
        · rfl
        · exact ih

theorem mem_of_find? {table : Table α} {key : String} {value : α} (found : table.find? key = some value) :
    (key, value) ∈ table := by
  induction table with
  | nil => simp [find?] at found
  | cons head table ih =>
      rw [find?, List.lookup_cons] at found
      split at found
      next same =>
        obtain rfl := beq_iff_eq.mp same
        cases found
        exact List.mem_cons_self
      next => exact List.mem_cons_of_mem _ (ih found)

/-! ## Distinct keys -/

theorem Sorted.nodup {table : Table α} (sorted : Sorted table) : table.keys.Nodup := by
  refine sorted.imp ?_
  rintro key _ before rfl
  simp at before

theorem find?_eq_some_of_mem {table : Table α} {key : String} {value : α} (distinct : table.keys.Nodup)
    (member : (key, value) ∈ table) : table.find? key = some value := by
  induction table with
  | nil => cases member
  | cons head table ih =>
      obtain ⟨unique, others⟩ := List.nodup_cons.mp distinct
      rw [find?, List.lookup_cons]
      rcases List.mem_cons.mp member with rfl | later
      · simp
      · have different : (key == head.1) = false := by
          rw [beq_eq_false_iff_ne]
          rintro rfl
          exact unique (List.mem_map.mpr ⟨_, later, rfl⟩)
        rw [different]
        exact ih others later

end PipeQuery.Table
