import PipeQuery.Proofs.Query.Trichotomy

/-!
# Clauses of membership

A clause of membership has one operand for each item of its list, and equality with an item has the same
operand. So the one holds where one of the others does, and all that matters about the list is which items
it has.
-/

set_option autoImplicit false

namespace PipeQuery.Clause

variable {field : String} {items others : List Argument} {clause : Clause} {value : FieldValue}

theorem ofArgument_isIn_list_eq_ok_iff :
    ofArgument field .isIn (.list items) = .ok clause ↔
      ∃ members, items.mapM (Operand.ofScalar .isIn) = .ok members ∧
        ⟨field, .isIn, .set members⟩ = clause := by
  rw [ofArgument, Operand.ofArgument, map_eq_ok_iff]
  simp only [Argument.items?, map_eq_ok_iff, exists_exists_and_eq_and]

theorem holds_set (members : List Operand) (value : FieldValue) :
    (⟨field, .isIn, .set members⟩ : Clause).holds value =
      members.any fun member => member.compare? value == some .eq := by
  cases value with
  | missing =>
      refine (List.any_eq_false.mpr fun member _ => ?_).symm
      rw [Operand.compare?_missing]
      decide
  | _ => rfl

/-! ## The list and its items -/

/-- An item is read as a member if it is read as the value of an equality. -/
theorem exists_member_iff {item : Argument} :
    (∃ member, Operand.ofScalar .isIn item = .ok member) ↔
      ∃ equality, ofArgument field .eq item = .ok equality := by
  constructor
  · rintro ⟨member, read⟩
    exact ⟨_, (ofArgument_eq_ok_iff rfl).mpr ⟨member, Operand.ofScalar_eq_ok_iff.mp read, rfl⟩⟩
  · rintro ⟨equality, made⟩
    obtain ⟨member, read, -⟩ := (ofArgument_eq_ok_iff rfl).mp made
    exact ⟨member, Operand.ofScalar_eq_ok_iff.mp read⟩

theorem exists_ofArgument_isIn_iff :
    (∃ clause, ofArgument field .isIn (.list items) = .ok clause) ↔
      ∀ item ∈ items, ∃ equality, ofArgument field .eq item = .ok equality := by
  constructor
  · rintro ⟨clause, made⟩ item member
    obtain ⟨members, read, -⟩ := ofArgument_isIn_list_eq_ok_iff.mp made
    exact exists_member_iff.mp (exists_ok_of_mapM_ok read member)
  · intro each
    obtain ⟨members, read⟩ :=
      exists_mapM_ok_iff.mpr fun item member => exists_member_iff.mpr (each item member)
    exact ⟨_, ofArgument_isIn_list_eq_ok_iff.mpr ⟨members, read, rfl⟩⟩

theorem holds_isIn_iff (made : ofArgument field .isIn (.list items) = .ok clause) :
    clause.holds value = true ↔
      ∃ item ∈ items, ∃ equality, ofArgument field .eq item = .ok equality ∧ equality.holds value = true := by
  obtain ⟨members, read, rfl⟩ := ofArgument_isIn_list_eq_ok_iff.mp made
  rw [holds_set, List.any_eq_true]
  constructor
  · rintro ⟨member, among, equal⟩
    obtain ⟨item, listed, found⟩ := (mem_iff_of_mapM_ok read).mp among
    have scalar : Operand.ofScalar .eq item = .ok member := Operand.ofScalar_eq_ok_iff.mp found
    exact ⟨item, listed, _, (ofArgument_eq_ok_iff rfl).mpr ⟨member, scalar, rfl⟩,
      (holds_eq_iff scalar).mpr (eq_of_beq equal)⟩
  · rintro ⟨item, listed, equality, made, holds⟩
    obtain ⟨member, scalar, rfl⟩ := (ofArgument_eq_ok_iff rfl).mp made
    refine ⟨member, (mem_iff_of_mapM_ok read).mpr ⟨item, listed, Operand.ofScalar_eq_ok_iff.mp scalar⟩, ?_⟩
    exact beq_iff_eq.mpr ((holds_eq_iff scalar).mp holds)

/-! ## Lists with the same items -/

/-- Lists with the same items make clauses that hold of the same values. -/
theorem exists_ofArgument_isIn_of_mem_iff (same : ∀ item, item ∈ others ↔ item ∈ items)
    (made : ofArgument field .isIn (.list items) = .ok clause) :
    ∃ other, ofArgument field .isIn (.list others) = .ok other ∧
      ∀ value, other.holds value = clause.holds value := by
  have each := exists_ofArgument_isIn_iff.mp ⟨clause, made⟩
  obtain ⟨other, otherMade⟩ :=
    exists_ofArgument_isIn_iff.mpr fun item member => each item ((same item).mp member)
  refine ⟨other, otherMade, fun value => ?_⟩
  rw [Bool.eq_iff_iff, holds_isIn_iff otherMade, holds_isIn_iff made]
  simp only [same]

/-- A list that joins two lists makes a clause that holds where that of one of the two holds. -/
theorem exists_ofArgument_isIn_append {later : Clause}
    (made : ofArgument field .isIn (.list items) = .ok clause)
    (laterMade : ofArgument field .isIn (.list others) = .ok later) :
    ∃ both, ofArgument field .isIn (.list (items ++ others)) = .ok both ∧
      ∀ value, both.holds value = (clause.holds value || later.holds value) := by
  have each : ∀ item ∈ items ++ others, ∃ equality, ofArgument field .eq item = .ok equality :=
    List.forall_mem_append.mpr
      ⟨exists_ofArgument_isIn_iff.mp ⟨clause, made⟩, exists_ofArgument_isIn_iff.mp ⟨later, laterMade⟩⟩
  obtain ⟨both, bothMade⟩ := exists_ofArgument_isIn_iff.mpr each
  refine ⟨both, bothMade, fun value => ?_⟩
  rw [Bool.eq_iff_iff, Bool.or_eq_true, holds_isIn_iff bothMade, holds_isIn_iff made,
    holds_isIn_iff laterMade]
  simp only [List.mem_append, or_and_right, exists_or]

theorem holds_isIn_nil (made : ofArgument field .isIn (.list []) = .ok clause) :
    clause.holds value = false := by
  rw [← Bool.not_eq_true, holds_isIn_iff made]
  rintro ⟨item, listed, -⟩
  cases listed

/-- A clause of membership can be made from a list if and only if a clause of equality can be made from each
of its items, and it holds of the values of which one of these holds. So neither the order of the items nor
their repetition matters, no value is a member of the empty list, and joining lists joins what is a member of
them. -/
theorem membership_is_disjunction_of_equalities (field : String) (items : List Argument) :
    ((∃ clause, ofArgument field .isIn (.list items) = .ok clause) ↔
      ∀ item ∈ items, ∃ equality, ofArgument field .eq item = .ok equality) ∧
    (∀ clause, ofArgument field .isIn (.list items) = .ok clause →
      (∀ value, clause.holds value = true ↔ ∃ item ∈ items, ∃ equality,
        ofArgument field .eq item = .ok equality ∧ equality.holds value = true) ∧
      (∀ others, (∀ item, item ∈ others ↔ item ∈ items) →
        ∃ other, ofArgument field .isIn (.list others) = .ok other ∧
          ∀ value, other.holds value = clause.holds value) ∧
      ∀ others later, ofArgument field .isIn (.list others) = .ok later →
        ∃ both, ofArgument field .isIn (.list (items ++ others)) = .ok both ∧
          ∀ value, both.holds value = (clause.holds value || later.holds value)) ∧
    ∃ empty, ofArgument field .isIn (.list []) = .ok empty ∧ ∀ value, empty.holds value = false := by
  refine ⟨exists_ofArgument_isIn_iff, fun clause made => ⟨fun value => holds_isIn_iff made, ?_, ?_⟩, ?_⟩
  · intro others same
    exact exists_ofArgument_isIn_of_mem_iff same made
  · intro others later laterMade
    exact exists_ofArgument_isIn_append made laterMade
  · exact ⟨_, rfl, fun value => holds_isIn_nil rfl⟩

theorem membership_in_list_of_several_kinds :
    let items : List Argument := [.instant ⟨1704067200, 0⟩, .number (.float (.zero true)), .bare "x"]
    let clause : Clause :=
      ⟨"k", .isIn, .set [.timestamp ⟨1704067200000⟩, .number (.float (.zero true)), .text "x"]⟩
    let date : FieldValue := .text "2024-01-01"
    ofArgument "k" .isIn (.list items) = .ok clause ∧
      (∀ item ∈ items, ∃ equality, ofArgument "k" .eq item = .ok equality) ∧
      (clause.holds date = true ↔ ∃ item ∈ items, ∃ equality,
        ofArgument "k" .eq item = .ok equality ∧ equality.holds date = true) ∧
      clause.holds date = true ∧ clause.holds (.text "2024-01-02") = false ∧
      (∃ other, ofArgument "k" .isIn (.list (items.reverse ++ items)) = .ok other ∧
        ∀ value, other.holds value = clause.holds value) ∧
      ∃ both, ofArgument "k" .isIn (.list (items ++ [.bool true])) = .ok both ∧
        both.holds (.bool true) = true := by
  intro items clause date
  obtain ⟨made, laws, -⟩ := membership_is_disjunction_of_equalities "k" items
  have read : ofArgument "k" .isIn (.list items) = .ok clause := rfl
  obtain ⟨holds, same, joined⟩ := laws clause read
  refine ⟨read, made.mp ⟨clause, read⟩, holds date, by decide +kernel, by decide +kernel, ?_, ?_⟩
  · exact same _ fun item => by simp
  · obtain ⟨both, bothMade, either⟩ := joined [.bool true] ⟨"k", .isIn, .set [.bool true]⟩ rfl
    refine ⟨both, bothMade, ?_⟩
    rw [either, Bool.or_eq_true]
    exact .inr (by decide)

end PipeQuery.Clause
