import PipeQuery.Proofs.Argument.Reader

/-!
# Reading in rounds

One round of reading finds out the form of a token: a value as a whole, or a list or a map with texts in
it, whose values are then read in the next round. Each round takes two characters off, so half the length
of a token bounds the rounds: what would be done in further ones has no influence on the value.
-/

set_option autoImplicit false

namespace PipeQuery.Argument

open Text

/-- What one round finds out about a token: a value that holds no other values, or a list or a map with
the texts of its items or entries. -/
inductive Form where
  | whole (value : Argument)
  | list (items : List (List Char))
  | map (entries : List (List Char))

def formOf (token : List Char) : Form :=
  match ofAtom? (trim token) with
  | some value => .whole value
  | none =>
    match enclosed? '[' ']' (trim token) with
    | some inner => .list (split ',' inner)
    | none =>
      match enclosed? '{' '}' (trim token) with
      | some inner => .map (split ',' inner)
      | none => .whole (.bare (String.ofList (trim token)))

/-- The key and the value of an entry, where the value is read as given. -/
def entryBy (read : List Char → Except ReadError Argument) (entry : List Char) :
    Except ReadError (String × Argument) :=
  match splitAtColon? entry with
  | none => .error (.entryWithoutColon (String.ofList entry))
  | some (key, token) => (read token).map (fun value => (keyOf key, value))

namespace Form

/-- The tokens of the values inside. -/
def parts : Form → List (List Char)
  | .whole _ => []
  | .list items => items
  | .map entries => entries.filterMap fun entry => (splitAtColon? entry).map Prod.snd

/-- The value of a form, where the values inside are read as given. -/
def value (read : List Char → Except ReadError Argument) : Form → Except ReadError Argument
  | .whole value => .ok value
  | .list items => (items.mapM read).map .list
  | .map entries => (entries.mapM (entryBy read)).map (fun entries => .map (Table.ofList entries))

/-- The value of a form depends on how its parts are read and on nothing else. -/
theorem value_congr {read other : List Char → Except ReadError Argument} {form : Form}
    (same : ∀ part ∈ form.parts, read part = other part) : form.value read = form.value other := by
  cases form with
  | whole value => rfl
  | list items =>
      have each : ∀ item ∈ items, read item = other item := same
      rw [value, value, mapM_congr each]
  | map entries =>
      have each : ∀ entry ∈ entries, entryBy read entry = entryBy other entry := by
        intro entry member
        unfold entryBy
        split
        · rfl
        next key token found =>
          have part : token ∈ (Form.map entries).parts :=
            List.mem_filterMap.mpr ⟨entry, member, by rw [found, Option.map_some]⟩
          rw [same token part]
      rw [value, value, mapM_congr each]

end Form

/-! ## One round -/

theorem ofToken_eq_value (token : List Char) : ofToken token = (formOf token).value ofToken := by
  unfold formOf
  split
  next atom => rw [ofToken_of_atom atom, Form.value]
  next atom =>
    split
    next inner inList => rw [ofToken_of_list atom inList, itemsOf_eq_mapM, Form.value]
    next notInList =>
      split
      next inner inMap =>
        rw [ofToken_of_map atom notInList inMap, entriesOf_eq_mapM, Form.value]
        rfl
      next notInMap => rw [ofToken_of_bare atom notInList notInMap, Form.value]

theorem value_formOf {read : List Char → Except ReadError Argument} {token : List Char}
    (same : ∀ part ∈ (formOf token).parts, read part = ofToken part) :
    (formOf token).value read = ofToken token := by
  rw [Form.value_congr same, ← ofToken_eq_value]

/-- The values inside of a list or a map stand in tokens that lack its brackets. -/
theorem length_of_mem_parts {token part : List Char} (member : part ∈ (formOf token).parts) :
    part.length + 2 ≤ (trim token).length := by
  unfold formOf at member
  split at member
  · cases member
  split at member
  next inner inList =>
    have brackets := length_of_enclosed? inList
    have within := length_le_of_mem_split member
    omega
  split at member
  next inner inMap =>
    obtain ⟨entry, among, found⟩ := List.mem_filterMap.mp member
    obtain ⟨⟨key, value⟩, cut, rfl⟩ := Option.map_eq_some_iff.mp found
    have brackets := length_of_enclosed? inMap
    have within := length_le_of_mem_split among
    have after : value.length < entry.length := length_lt_of_splitAtColon? cut
    change value.length + 2 ≤ _
    omega
  next => cases member

/-! ## Rounds -/

/-- The value of a token, read in a bounded number of rounds and then otherwise. -/
def ofTokenWithin (otherwise : List Char → Except ReadError Argument) :
    Nat → List Char → Except ReadError Argument
  | 0 => otherwise
  | rounds + 1 => fun token => (formOf token).value (ofTokenWithin otherwise rounds)

theorem ofTokenWithin_eq_ofToken (otherwise : List Char → Except ReadError Argument) {rounds : Nat}
    {token : List Char} (enough : token.length < 2 * rounds) :
    ofTokenWithin otherwise rounds token = ofToken token := by
  induction rounds generalizing token with
  | zero => exact absurd enough (Nat.not_lt_zero _)
  | succ rounds ih =>
      refine value_formOf fun part member => ih ?_
      have shorter := length_of_mem_parts member
      have trimmed := length_trim_le token
      omega

end PipeQuery.Argument
