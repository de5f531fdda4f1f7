import PipeQuery.Proofs.Collection.Filtering
import PipeQuery.Proofs.Query.Trichotomy
import PipeQuery.Record.Document

/-!
# Steps that ask for a number

A step that keeps the items whose field equals a number keeps those that hold a number of its value. It also
keeps those that hold a number of another kind which it takes for equal.
-/

set_option autoImplicit false

namespace PipeQuery

theorem Operand.compare?_number_eq_iff {number : Number} {value : FieldValue} :
    (Operand.number number).compare? value = some .eq ↔
      ∃ stored, value = .number stored ∧ stored.compare? number = some .eq := by
  cases value with
  | number stored =>
      constructor
      · intro equal
        exact ⟨stored, rfl, equal⟩
      · rintro ⟨_, same, equal⟩
        cases same
        exact equal
  | _ => simp [compare?]

namespace Collection

section

variable {α μ ε : Type} [Record α] [Behaviour α μ ε] {express : QueryError → ε} {collection : Collection α μ}

/-- A step that asks a field for a number keeps the items whose field holds a number of its value or one
that is taken for equal, and no others. -/
theorem exists_kept_of_equal_number (keeps : collection.Offers express .keep) {field word : Argument}
    {name : String} {number : Number} (named : field.text? = some name)
    (spelled : word.text?.bind Operator.ofWord? = some .eq) (proper : number ≠ .float .nan) :
    ∃ kept : α → Bool,
      Chain.execute collection [QueryMember.keep.call [field, word, .number number]] =
        (collection.filter kept, .ok ()) ∧
      ∀ item, kept item = true ↔ ∃ stored, Record.field item name = .number stored ∧
        (stored.units? = number.units? ∨ stored.RoundedTogether number) := by
  obtain ⟨text, worded, found⟩ := Option.bind_eq_some_iff.mp spelled
  have read : QueryMember.keep.clauseOf [field, word, .number number] =
      .ok ⟨name, .eq, .number number⟩ :=
    QueryMember.Filters.keep.clauseOf_eq_ok_iff.mpr (.comparison named worded found rfl)
  refine ⟨_, execute_filtering false keeps read, fun item => ?_⟩
  have scalar : Operand.ofScalar .eq (.number number) = .ok (.number number) := rfl
  rw [Bool.bne_false, Query.clauseHolds, Clause.holds_eq_iff scalar, Operand.compare?_number_eq_iff]
  exact exists_congr fun stored => and_congr_right fun _ => Number.compare?_eq_iff proper

end

/-- Of two numbers, neither of them the value that is not a number, comparison gives the order of their
values, unless they differ in kind and in value and one binary number is nearest to both: then it takes them
for equal. Numbers of one kind are never so taken, nor are two numbers that conversion leaves as they are,
among them all floats and the integers up to the fifty-third power of two. Being less is transitive among
all numbers, not being greater among numbers of which no two are taken for equal. A step that asks a field
for a number keeps the items with a number of its value or one that is taken for equal. -/
theorem numbers_compare_by_value_unless_rounded_together {α μ ε : Type} [Record α] [Behaviour α μ ε] :
    (∀ left right : Number, left ≠ .float .nan → right ≠ .float .nan →
      ∃ leftUnits rightUnits, left.units? = some leftUnits ∧ right.units? = some rightUnits ∧
        left.compare? right =
          some (if left.RoundedTogether right then .eq else compare leftUnits rightUnits)) ∧
    (∀ left right : Number, left.SameKind right ∨ (left.IsExact ∧ right.IsExact) →
      ¬ left.RoundedTogether right) ∧
    (∀ number : Number, (∃ value, number = .float value ∧ value ≠ .nan) ∨
        (∃ value : Int, number.units? = some (value * Binary64.unitsPerOne) ∧ value.natAbs ≤ 2 ^ 53) →
      number.IsExact) ∧
    (∀ first second third : Number, first.compare? second = some .lt →
      second.compare? third = some .lt → first.compare? third = some .lt) ∧
    (∀ first second third : Number,
      (∀ number ∈ [first, second, third], number ≠ .float .nan) →
      (∀ pair ∈ [(first, second), (second, third), (first, third)], ¬ pair.1.RoundedTogether pair.2) →
      first.compare? second ≠ some .gt → second.compare? third ≠ some .gt →
      first.compare? third ≠ some .gt) ∧
    ∀ (express : QueryError → ε) (collection : Collection α μ), collection.Offers express .keep →
      ∀ (field word : Argument) (name : String) (number : Number), field.text? = some name →
        word.text?.bind Operator.ofWord? = some .eq → number ≠ .float .nan →
        ∃ kept : α → Bool,
          Chain.execute collection [QueryMember.keep.call [field, word, .number number]] =
            (collection.filter kept, .ok ()) ∧
          ∀ item, kept item = true ↔ ∃ stored, Record.field item name = .number stored ∧
            (stored.units? = number.units? ∨ stored.RoundedTogether number) := by
  refine ⟨fun _ _ => Number.exists_units_compare?, ?_, ?_, fun _ _ _ => Number.compare?_lt_trans, ?_,
    fun _ _ keeps _ _ _ _ => exists_kept_of_equal_number keeps⟩
  · rintro left right (same | ⟨leftExact, rightExact⟩)
    · exact Number.not_roundedTogether_of_sameKind same
    · exact Number.not_roundedTogether_of_isExact leftExact rightExact
  · rintro number (⟨value, rfl, proper⟩ | ⟨value, whole, small⟩)
    · exact Number.isExact_float proper
    · exact Number.isExact_of_natAbs_le whole small
  · intro first second third proper apart
    simp only [List.forall_mem_cons] at proper apart
    obtain ⟨firstProper, secondProper, thirdProper, -⟩ := proper
    obtain ⟨lower, upper, outer, -⟩ := apart
    exact Number.compare?_ne_gt_trans firstProper secondProper thirdProper lower upper outer

theorem numbers_compare_beside_the_fifty_third_power :
    let even : Number := .signed 9007199254740992
    let odd : Number := .signed 9007199254740993
    let float : Number := .float (.finite false (2 ^ 52) 1075 (by decide))
    let greater : Number := .unsigned 9223372036854775808
    let collection : Collection Json QueryMember :=
      queryable [.object [("k", .integer 9007199254740993 (by decide))],
        .object [("k", .integer 9007199254740994 (by decide))], .object [("k", .string "k")]] {}
    (even.SameKind odd ∧ ¬ even.RoundedTogether odd) ∧ (float.IsExact ∧ even.IsExact) ∧
      ¬ float.RoundedTogether even ∧
      (∃ evenUnits oddUnits, even.units? = some evenUnits ∧ odd.units? = some oddUnits ∧
        even.compare? odd =
          some (if even.RoundedTogether odd then .eq else compare evenUnits oddUnits)) ∧
      (even.compare? odd = some .lt ∧ odd.compare? greater = some .lt ∧ even.compare? greater = some .lt) ∧
      (float.compare? even ≠ some .gt ∧ even.compare? greater ≠ some .gt ∧
        float.compare? greater ≠ some .gt) ∧
      ∃ kept : Json → Bool,
        Chain.execute collection [QueryMember.keep.call [.bare "k", .bare "==", .number float]] =
          (collection.filter kept, .ok ()) ∧
        ∀ item, kept item = true ↔ ∃ stored, Record.field item "k" = .number stored ∧
          (stored.units? = float.units? ∨ stored.RoundedTogether float) := by
  intro even odd float greater collection
  obtain ⟨ordered, apart, exact, less, notGreater, keeps⟩ :=
    @numbers_compare_by_value_unless_rounded_together Json QueryMember QueryError _ _
  have kinds : even.SameKind odd := trivial
  have floatExact : float.IsExact := exact float (.inl ⟨_, rfl, by decide⟩)
  have evenExact : even.IsExact := exact even (.inr ⟨9007199254740992, rfl, by decide⟩)
  have floatApart : ¬ float.RoundedTogether even := apart float even (.inr ⟨floatExact, evenExact⟩)
  have evenLess : even.compare? odd = some .lt := by decide +kernel
  have oddLess : odd.compare? greater = some .lt := by decide +kernel
  have floatNotGreater : float.compare? even ≠ some .gt := by decide +kernel
  have evenNotGreater : even.compare? greater ≠ some .gt := by decide +kernel
  refine ⟨⟨kinds, apart even odd (.inl kinds)⟩, ⟨floatExact, evenExact⟩, floatApart,
    ordered even odd (by decide) (by decide),
    ⟨evenLess, oddLess, less even odd greater evenLess oddLess⟩,
    ⟨floatNotGreater, evenNotGreater, ?_⟩, ?_⟩
  · exact notGreater float even greater (by decide) (by decide +kernel) floatNotGreater evenNotGreater
  · exact keeps id collection (offers_queryable collection.items {} .keep) (.bare "k") (.bare "==") "k"
      float rfl (by decide +kernel) (by decide)

theorem different_numbers_are_taken_for_equal :
    let even : Number := .signed 9007199254740992
    let odd : Number := .signed 9007199254740993
    let float : Number := .float (.finite false (2 ^ 52) 1075 (by decide))
    let document : Json := .object [("k", .integer 9007199254740993 (by decide))]
    let collection : Collection Json QueryMember := queryable [document] {}
    odd.units? ≠ float.units? ∧ odd.compare? float = some .eq ∧ float.compare? even = some .eq ∧
      odd.compare? even = some .gt ∧ Record.field document "k" = .number odd ∧
      Chain.execute collection [QueryMember.keep.call [.bare "k", .bare "eq", .number float]] =
        (collection, .ok ()) := by
  intro even odd float document collection
  have read : QueryMember.keep.clauseOf [.bare "k", .bare "eq", .number float] =
      .ok ⟨"k", .eq, .number float⟩ := rfl
  have holds : Query.clauseHolds document ⟨"k", .eq, .number float⟩ = true := by decide +kernel
  have kept : collection.filter (fun item => Query.clauseHolds item ⟨"k", .eq, .number float⟩ != false) =
      collection := by
    refine congrArg (fun items => ({ collection with items } : Collection Json QueryMember)) ?_
    exact (List.filter_cons_of_pos (by rw [holds]; rfl)).trans (congrArg _ List.filter_nil)
  have run := execute_filtering false (offers_queryable [document] {} .keep) read
  refine ⟨by decide +kernel, by decide +kernel, by decide +kernel, by decide +kernel, rfl, ?_⟩
  exact run.trans (Prod.ext kept rfl)

end Collection

end PipeQuery
