import PipeQuery.Json.Reader
import PipeQuery.Proofs.Table

/-!
# Places in a document

Steps lead from a document down to the documents in it, by names of members and by positions of items. In
every document that is read, the members of an object have distinct names.
-/

set_option autoImplicit false

namespace PipeQuery.Json

/-- A step down: to the member of an object with a name, or to the item of an array at a position. No array has
more items than a word of sixty-four bits can count. -/
inductive Step where
  | member (name : String)
  | item (position : UInt64)

/-- The document that stands one step below another one. -/
inductive Child : Json → Step → Json → Prop where
  | member {members : List (String × Json)} {name : String} {child : Json} :
      (name, child) ∈ members → Child (.object members) (.member name) child
  | item {items : List Json} {position : UInt64} {child : Json} :
      items[position.toNat]? = some child → Child (.array items) (.item position) child

/-- The document at the end of several steps. -/
inductive Holds : Json → List Step → Json → Prop where
  | root {document : Json} : Holds document [] document
  | step {document child found : Json} {step : Step} {steps : List Step} :
      Child document step child → Holds child steps found → Holds document (step :: steps) found

/-- No object in the document has two members under one name. -/
inductive HasDistinctNames : Json → Prop where
  | null : HasDistinctNames .null
  | bool {value : Bool} : HasDistinctNames (.bool value)
  | integer {value : Int} {isWide : IsWideInt value} : HasDistinctNames (.integer value isWide)
  | fraction {value : Binary64} : HasDistinctNames (.fraction value)
  | string {value : String} : HasDistinctNames (.string value)
  | array {items : List Json} : (∀ item ∈ items, HasDistinctNames item) → HasDistinctNames (.array items)
  | object {members : Table Json} : members.keys.Nodup →
      (∀ entry ∈ members, HasDistinctNames entry.2) → HasDistinctNames (.object members)

/-! ## Distinct names -/

theorem HasDistinctNames.child {document child : Json} {step : Step} (distinct : document.HasDistinctNames)
    (below : document.Child step child) : child.HasDistinctNames := by
  cases below with
  | member registered =>
      cases distinct with
      | object _ values => exact values _ registered
  | item found =>
      cases distinct with
      | array items => exact items _ (List.mem_of_getElem? found)

/-! ## Documents that are read -/

/-- Members as they are put in while an object is read: in the order of their names, and with distinct names in
each of them. -/
structure Tidy (members : Table Json) : Prop where
  sorted : members.Sorted
  values : ∀ entry ∈ members, entry.2.HasDistinctNames

theorem Tidy.insert {members : Table Json} {value : Json} (tidy : Tidy members)
    (distinct : value.HasDistinctNames) (name : String) : Tidy (members.insert name value) where
  sorted := Table.sorted_insert tidy.sorted name value
  values := by
    intro entry member
    rcases Table.mem_of_mem_insert member with rfl | earlier
    · exact distinct
    · exact tidy.values entry earlier

theorem Tidy.object {members : Table Json} (tidy : Tidy members) :
    HasDistinctNames (.object members) :=
  .object tidy.sorted.nodup tidy.values

theorem hasDistinctNames_of_ofNumberText? {text : List Char} {document : Json}
    (read : ofNumberText? text = some document) : document.HasDistinctNames := by
  have ofFraction {value : Option Binary64} (made : value.map Json.fraction = some document) :
      document.HasDistinctNames := by
    obtain ⟨value, -, rfl⟩ := Option.map_eq_some_iff.mp made
    exact .fraction
  unfold ofNumberText? at read
  dsimp only at read
  split at read
  · exact ofFraction read
  split at read
  · split at read
    · exact ofFraction read
    · cases read
      exact .integer
  · exact ofFraction read

/-- Reading keeps names distinct. The three readers call each other with less fuel, so the induction is on the
fuel for all of them at once. -/
theorem distinct_of_readers (fuel : Nat) :
    (∀ text document rest, takeDocument fuel text = some (document, rest) → document.HasDistinctNames) ∧
      (∀ collected text items rest, (∀ item ∈ collected, HasDistinctNames item) →
        takeItems fuel collected text = some (items, rest) → ∀ item ∈ items, HasDistinctNames item) ∧
      ∀ members text result rest, Tidy members →
        takeMembers fuel members text = some (result, rest) → Tidy result := by
  induction fuel with
  | zero => simp [takeDocument, takeItems, takeMembers]
  | succ fuel ih =>
      obtain ⟨ofDocument, ofItems, ofMembers⟩ := ih
      refine ⟨?_, ?_, ?_⟩
      · intro text document rest read
        rw [takeDocument] at read
        split at read
        · cases read
          exact .null
        · cases read
          exact .bool
        · cases read
          exact .bool
        · obtain ⟨⟨value, after⟩, -, same⟩ := Option.map_eq_some_iff.mp read
          cases same
          exact .string
        · split at read
          · cases read
            exact .array (by simp)
          · obtain ⟨⟨items, after⟩, found, same⟩ := Option.map_eq_some_iff.mp read
            cases same
            exact .array (ofItems [] _ items _ (by simp) found)
        · split at read
          · cases read
            exact .object .nil (by simp)
          · obtain ⟨⟨members, after⟩, found, same⟩ := Option.map_eq_some_iff.mp read
            cases same
            exact (ofMembers [] _ members _ ⟨.nil, by simp⟩ found).object
        · obtain ⟨value, found, same⟩ := Option.map_eq_some_iff.mp read
          cases same
          exact hasDistinctNames_of_ofNumberText? found
      · intro collected text items rest distinct read
        rw [takeItems] at read
        obtain ⟨⟨item, after⟩, found, read⟩ := Option.bind_eq_some_iff.mp read
        have further : ∀ other ∈ item :: collected, HasDistinctNames other :=
          List.forall_mem_cons.mpr ⟨ofDocument _ _ _ found, distinct⟩
        dsimp only at read
        split at read
        · exact ofItems _ _ _ _ further read
        · cases read
          intro other member
          exact further other (List.mem_reverse.mp member)
        · cases read
      · intro members text result rest tidy read
        rw [takeMembers] at read
        split at read
        · obtain ⟨⟨name, after⟩, -, read⟩ := Option.bind_eq_some_iff.mp read
          dsimp only at read
          split at read
          · obtain ⟨⟨value, remaining⟩, found, read⟩ := Option.bind_eq_some_iff.mp read
            have further := tidy.insert (ofDocument _ _ _ found) name
            dsimp only at read
            split at read
            · exact ofMembers _ _ _ _ further read
            · cases read
              exact further
            · cases read
          · cases read
        · cases read

theorem hasDistinctNames_of_ofText? {text : String} {document : Json} (read : ofText? text = some document) :
    document.HasDistinctNames := by
  obtain ⟨⟨found, rest⟩, taken, read⟩ := Option.bind_eq_some_iff.mp read
  obtain ⟨-, same⟩ := Option.ite_none_right_eq_some.mp read
  cases same
  exact (distinct_of_readers _).1 _ _ _ taken

end PipeQuery.Json
