import PipeQuery.Proofs.Argument.Rendering
import PipeQuery.Proofs.Text.Places

/-!
# The size of values

A token is read as no more values than it has characters, and each list or map that stands inside of
another takes up two characters. Only the empty token is smaller than its value, the empty word.
-/

set_option autoImplicit false

namespace PipeQuery

/-! ## Sums over what is read -/

/-- If no result weighs more than the item it is read from, all results together weigh no more than all
items. -/
theorem sum_le_of_mapM_ok {α β ε : Type} {read : α → Except ε β} {items : List α} {results : List β}
    {given : α → Nat} {found : β → Nat} (all : items.mapM read = .ok results)
    (each : ∀ item ∈ items, ∀ result, read item = .ok result → found result ≤ given item) :
    (results.map found).sum ≤ (items.map given).sum := by
  induction items generalizing results with
  | nil =>
      cases all
      exact Nat.le_refl _
  | cons item items ih =>
      obtain ⟨first, others⟩ := List.forall_mem_cons.mp each
      obtain ⟨result, later, head, tail, rfl⟩ := mapM_cons_eq_ok_iff.mp all
      rw [List.map_cons, List.sum_cons, List.map_cons, List.sum_cons]
      exact Nat.add_le_add (first result head) (ih tail others)

/-- What is read piece by piece, each result within its piece, is within the text. -/
theorem Text.sum_le_of_mapM_split {β ε : Type} {separator : Char} {text : List Char}
    {read : List Char → Except ε β} {results : List β} {found : β → Nat}
    (all : (split separator text).mapM read = .ok results)
    (each : ∀ piece ∈ split separator text, ∀ result, read piece = .ok result →
      found result ≤ piece.length) :
    (results.map found).sum ≤ text.length :=
  calc (results.map found).sum
    _ ≤ ((split separator text).map List.length).sum := sum_le_of_mapM_ok all each
    _ = (split separator text).flatten.length := List.length_flatten.symm
    _ ≤ text.length := (flatten_split_sublist separator text).length_le

namespace Table

/-- The entries of a table weigh no more than those that were put in. -/
theorem sum_insert_le {α : Type} {weight : String × α → Nat} (key : String) (value : α) (table : Table α) :
    ((insert key value table).map weight).sum ≤ weight (key, value) + (table.map weight).sum := by
  induction table with
  | nil => simp [insert]
  | cons head table ih =>
      simp only [insert]
      split
      · exact Nat.le_refl _
      · simp only [List.map_cons, List.sum_cons]
        omega
      · rw [List.map_cons, List.sum_cons, List.map_cons, List.sum_cons, Nat.add_left_comm]
        exact Nat.add_le_add_left ih _

theorem sum_ofList_le {α : Type} (weight : String × α → Nat) (entries : List (String × α)) :
    ((ofList entries).map weight).sum ≤ (entries.map weight).sum := by
  have further : ∀ (remaining : List (String × α)) (table : Table α),
      ((remaining.foldl (fun table entry => insert entry.1 entry.2 table) table).map weight).sum ≤
        (remaining.map weight).sum + (table.map weight).sum := by
    intro remaining
    induction remaining with
    | nil => simp
    | cons entry remaining ih =>
        intro table
        have later := ih (insert entry.1 entry.2 table)
        have first : _ ≤ weight entry + _ := sum_insert_le entry.1 entry.2 table
        rw [List.foldl_cons, List.map_cons, List.sum_cons]
        omega
  exact further entries []

end Table

namespace Argument

open Text

/-! ## Values inside of values -/

mutual

/-- The number of values that a value is made of, itself included. Keys are no values. -/
def size : Argument → Nat
  | .list items => sizeItems items + 1
  | .map entries => sizeEntries entries + 1
  | _ => 1

def sizeItems : List Argument → Nat
  | [] => 0
  | item :: items => size item + sizeItems items

def sizeEntries : List (String × Argument) → Nat
  | [] => 0
  | (_, value) :: entries => size value + sizeEntries entries

end

mutual

/-- The greatest number of lists and maps that stand one inside of the other. -/
def depth : Argument → Nat
  | .list items => depthItems items + 1
  | .map entries => depthEntries entries + 1
  | _ => 0

def depthItems : List Argument → Nat
  | [] => 0
  | item :: items => max (depth item) (depthItems items)

def depthEntries : List (String × Argument) → Nat
  | [] => 0
  | (_, value) :: entries => max (depth value) (depthEntries entries)

end

theorem sizeItems_eq_sum (items : List Argument) : sizeItems items = (items.map size).sum := by
  induction items with
  | nil => rfl
  | cons item items ih => rw [sizeItems, ih, List.map_cons, List.sum_cons]

theorem sizeEntries_eq_sum (entries : List (String × Argument)) :
    sizeEntries entries = (entries.map fun entry => entry.2.size).sum := by
  induction entries with
  | nil => rfl
  | cons entry entries ih => rw [sizeEntries, ih, List.map_cons, List.sum_cons]

theorem depthItems_le_iff {items : List Argument} {bound : Nat} :
    depthItems items ≤ bound ↔ ∀ item ∈ items, item.depth ≤ bound := by
  induction items with
  | nil => simp [depthItems]
  | cons item items ih => rw [depthItems, Nat.max_le, ih, List.forall_mem_cons]

theorem depthEntries_le_iff {entries : List (String × Argument)} {bound : Nat} :
    depthEntries entries ≤ bound ↔ ∀ entry ∈ entries, entry.2.depth ≤ bound := by
  induction entries with
  | nil => simp [depthEntries]
  | cons entry entries ih => rw [depthEntries, Nat.max_le, ih, List.forall_mem_cons]

theorem length_of_entryOf {text : List Char} {entry : String × Argument}
    (found : entryOf text = .ok entry) :
    ∃ token, token.length + 1 ≤ text.length ∧ ofToken token = .ok entry.2 := by
  obtain ⟨key, token, parts, -, read⟩ := exists_parts_of_entryOf found
  exact ⟨token, length_lt_of_splitAtColon? parts, read⟩

/-! ## The number of values -/

section Size

variable {inner : List Char}

theorem sum_size_le_of_itemsOf {items : List Argument} (read : itemsOf inner = .ok items)
    (shorter : ∀ token value, token.length ≤ inner.length → ofToken token = .ok value →
      value.size ≤ max 1 token.length) :
    (items.map size).sum ≤ inner.length := by
  rw [itemsOf_eq_mapM] at read
  refine sum_le_of_mapM_split read fun piece member item found => ?_
  have small := shorter piece item (length_le_of_mem_split member) found
  have nonempty := List.length_pos_of_ne_nil (trimmed_of_mem_split member).2
  omega

theorem sum_size_le_of_entriesOf {entries : List (String × Argument)}
    (read : entriesOf inner = .ok entries)
    (shorter : ∀ token value, token.length ≤ inner.length → ofToken token = .ok value →
      value.size ≤ max 1 token.length) :
    (entries.map fun entry => entry.2.size).sum ≤ inner.length := by
  rw [entriesOf_eq_mapM] at read
  refine sum_le_of_mapM_split read fun piece member entry found => ?_
  obtain ⟨token, less, found⟩ := length_of_entryOf found
  have within := length_le_of_mem_split member
  have small := shorter token entry.2 (by omega) found
  omega

end Size

theorem size_le_of_ofToken {token : List Char} {value : Argument} (read : ofToken token = .ok value) :
    value.size ≤ max 1 token.length := by
  -- The values inside of a list or a map stand in tokens that are shorter by the brackets.
  induction bound : token.length using Nat.strong_induction_on generalizing token value with
  | _ bound ih =>
      subst bound
      have trimmed := length_trim_le token
      have shorter (inner : List Char) (less : inner.length < token.length) (other : List Char)
          (value : Argument) (short : other.length ≤ inner.length) (found : ofToken other = .ok value) :
          value.size ≤ max 1 other.length :=
        ih other.length (Nat.lt_of_le_of_lt short less) found rfl
      cases readAs_of_ofToken read with
      | @list inner items all enclosed =>
          have brackets := length_of_enclosed? enclosed
          have inside := sum_size_le_of_itemsOf all (shorter inner (by omega))
          rw [size, sizeItems_eq_sum]
          omega
      | @map inner entries all enclosed =>
          have brackets := length_of_enclosed? enclosed
          have inside := sum_size_le_of_entriesOf all (shorter inner (by omega))
          have kept := Table.sum_ofList_le (fun entry => entry.2.size) entries
          rw [size, sizeEntries_eq_sum]
          omega
      | _ => exact Nat.le_max_left 1 token.length

/-! ## The depth of values -/

theorem depth_le_of_ofToken {token : List Char} {value : Argument} (read : ofToken token = .ok value) :
    value.depth ≤ token.length / 2 := by
  induction bound : token.length using Nat.strong_induction_on generalizing token value with
  | _ bound ih =>
      subst bound
      have trimmed := length_trim_le token
      cases readAs_of_ofToken read with
      | @list inner items all enclosed =>
          have brackets := length_of_enclosed? enclosed
          have inside : depthItems items ≤ inner.length / 2 := by
            refine depthItems_le_iff.mpr fun item member => ?_
            rw [itemsOf_eq_mapM] at all
            obtain ⟨piece, among, found⟩ := exists_of_mem_mapM_ok all member
            have within := length_le_of_mem_split among
            exact (ih piece.length (by omega) found rfl).trans (Nat.div_le_div_right within)
          rw [depth]
          omega
      | @map inner entries all enclosed =>
          have brackets := length_of_enclosed? enclosed
          have inside : depthEntries (Table.ofList entries) ≤ inner.length / 2 := by
            refine depthEntries_le_iff.mpr fun entry member => ?_
            rw [entriesOf_eq_mapM] at all
            obtain ⟨piece, among, found⟩ := exists_of_mem_mapM_ok all (Table.mem_of_mem_ofList member)
            obtain ⟨value, less, found⟩ := length_of_entryOf found
            have within := length_le_of_mem_split among
            exact (ih value.length (by omega) found rfl).trans (Nat.div_le_div_right (by omega))
          rw [depth]
          omega
      | _ => exact Nat.zero_le _

end Argument

end PipeQuery
