import PipeQuery.Proofs.Number.Order
import PipeQuery.Proofs.Query.Blocks

/-!
# Clauses with a scalar operand

The operators of comparison only look at the order of a value and the operand. So a value that has an order
beside the operand satisfies exactly one of being less, equal and greater, and the other operators join
these. A value that has none satisfies nothing, not even being unequal.
-/

set_option autoImplicit false

namespace PipeQuery

/-- The operators of comparison, aliases included. -/
def Operator.comparisons : List Operator :=
  [.eq, .ne, .lt, .lte, .gt, .gte, .before, .after, .is]

theorem Operator.mem_comparisons_iff {operator : Operator} :
    operator ∈ comparisons ↔ operator.isOrdering = true := by
  cases operator <;> decide

/-- The operator that asks for an outcome. -/
def Operator.ofOutcome : Ordering → Operator
  | .lt => .lt
  | .eq => .eq
  | .gt => .gt

theorem Operator.holds_iff_eq_ofOutcome {operator : Operator} (among : operator ∈ [lt, eq, gt])
    (outcome : Ordering) : operator.holds outcome = true ↔ operator = ofOutcome outcome := by
  simp only [List.mem_cons, List.not_mem_nil, or_false] at among
  rcases among with rfl | rfl | rfl <;> cases outcome <;> decide

theorem Operator.existsUnique_holds (outcome : Ordering) :
    ∃! operator : Operator, operator ∈ [lt, eq, gt] ∧ operator.holds outcome = true := by
  have among : ofOutcome outcome ∈ [lt, eq, gt] := by cases outcome <;> decide
  refine ⟨ofOutcome outcome, ⟨among, (holds_iff_eq_ofOutcome among outcome).mpr rfl⟩, ?_⟩
  rintro operator ⟨among, holds⟩
  exact (holds_iff_eq_ofOutcome among outcome).mp holds

theorem Operator.mem_comparisons_of_mem {operator : Operator} (among : operator ∈ [lt, eq, gt]) :
    operator ∈ comparisons := by
  revert among
  cases operator <;> decide

/-- Where one outcome decides the operators of comparison, exactly one of less, equal and greater is met, and
the others are joined from these. -/
theorem Operator.trichotomy_of_holds {met : Operator → Bool} {outcome : Ordering}
    (decided : ∀ operator ∈ comparisons, met operator = operator.holds outcome) :
    (∃! operator : Operator, operator ∈ [lt, eq, gt] ∧ met operator = true) ∧ (met ne = !met eq) ∧
      (met lte = (met lt || met eq)) ∧ (met gte = (met gt || met eq)) := by
  refine ⟨?_, ?_, ?_, ?_⟩
  · obtain ⟨operator, ⟨among, holds⟩, unique⟩ := existsUnique_holds outcome
    refine ⟨operator, ⟨among, (decided operator (mem_comparisons_of_mem among)).trans holds⟩, ?_⟩
    rintro other ⟨otherAmong, otherMet⟩
    exact unique other ⟨otherAmong, (decided other (mem_comparisons_of_mem otherAmong)).symm.trans otherMet⟩
  · rw [decided ne (by decide), decided eq (by decide)]
    cases outcome <;> rfl
  · rw [decided lte (by decide), decided lt (by decide), decided eq (by decide)]
    cases outcome <;> rfl
  · rw [decided gte (by decide), decided gt (by decide), decided eq (by decide)]
    cases outcome <;> rfl

/-! ## Operands of scalars -/

namespace Operand

variable {operator other : Operator} {argument : Argument} {operand : Operand} {value : FieldValue}

theorem ofScalar_eq_ok_iff :
    ofScalar operator argument = .ok operand ↔ ofScalar other argument = .ok operand := by
  cases argument <;> simp [ofScalar]

theorem exists_ofScalar_of_scalar (scalar : ¬ argument.IsCompound) :
    ∃ operand, ∀ operator, ofScalar operator argument = .ok operand := by
  have readable : ∃ operand, ofScalar .eq argument = .ok operand := ofScalar_ok_iff.mpr scalar
  obtain ⟨operand, read⟩ := readable
  exact ⟨operand, fun _ => ofScalar_eq_ok_iff.mp read⟩

theorem compare?_missing (operand : Operand) : operand.compare? .missing = none := by
  cases operand <;> rfl

end Operand

/-- The operators of comparison take a scalar for their operand. -/
theorem Clause.ofArgument_eq_ok_iff {field : String} {operator : Operator} {argument : Argument}
    {clause : Clause} (ordering : operator.isOrdering = true) :
    ofArgument field operator argument = .ok clause ↔
      ∃ operand, Operand.ofScalar operator argument = .ok operand ∧ ⟨field, operator, operand⟩ = clause := by
  rw [ofArgument, Operand.ofArgument_of_isOrdering ordering, map_eq_ok_iff]

/-- A comparison with a scalar holds of the values whose order beside the operand the operator asks for. -/
theorem Clause.holds_of_ofScalar {field : String} {operator reader : Operator} {argument : Argument}
    {operand : Operand} (ordering : operator.isOrdering = true)
    (read : Operand.ofScalar reader argument = .ok operand) (value : FieldValue) :
    (⟨field, operator, operand⟩ : Clause).holds value = (operand.compare? value).any operator.holds := by
  cases argument with
  | list => cases read
  | map => cases read
  | str part | bare part =>
      cases read
      cases value with
      -- Two texts are where a clause first asks whether its operator is one on texts.
      | text stored => exact Clause.holds_of_compare? ordering rfl
      | _ => rfl
  | _ =>
      cases read
      cases value <;> rfl

theorem Clause.holds_eq_iff {field : String} {reader : Operator} {argument : Argument} {operand : Operand}
    (read : Operand.ofScalar reader argument = .ok operand) {value : FieldValue} :
    (⟨field, .eq, operand⟩ : Clause).holds value = true ↔ operand.compare? value = some .eq := by
  rw [holds_of_ofScalar rfl read]
  cases operand.compare? value with
  | none => decide
  | some outcome => cases outcome <;> decide

/-! ## Comparable values -/

/-- The value has an order beside the scalar argument. A text is an instant beside an instant if it is a date
literal. -/
inductive Comparable : Argument → FieldValue → Prop where
  | text {argument : Argument} {asked : String} (worded : argument.text? = some asked) (stored : String) :
      Comparable argument (.text stored)
  | number {asked stored : Number} (askedProper : asked ≠ .float .nan) (storedProper : stored ≠ .float .nan) :
      Comparable (.number asked) (.number stored)
  | bool (asked stored : Bool) : Comparable (.bool asked) (.bool stored)
  | timestamp (asked : Instant) (stored : Timestamp) : Comparable (.instant asked) (.timestamp stored)
  | dateLiteral (asked : Instant) {literal : String} {written : Instant}
      (read : parseDateLiteral literal = some written) : Comparable (.instant asked) (.text literal)

/-- A value as it is seen beside an argument: a date literal beside an instant is the instant it writes. -/
def FieldValue.beside (argument : Argument) (value : FieldValue) : FieldValue :=
  match argument, value with
  | .instant _, .text literal =>
    match parseDateLiteral literal with
    | some written => .timestamp (.ofInstant written)
    | none => value
  | _, _ => value

namespace Operand

variable {operator : Operator} {argument : Argument} {operand : Operand} {value : FieldValue}

/-- What has an order beside the operand is comparable with the argument, and sorting gives it the same
order. -/
theorem comparable_of_compare? {outcome : Ordering} (read : ofScalar operator argument = .ok operand)
    (compared : operand.compare? value = some outcome) :
    Comparable argument value ∧
      (value.beside argument).compare? argument.fieldValue = some outcome := by
  cases argument with
  | bool asked =>
      cases read
      cases value with
      | bool stored => exact ⟨.bool asked stored, compared⟩
      | _ => cases compared
  | number asked =>
      cases read
      cases value with
      | number stored =>
          obtain ⟨storedProper, askedProper⟩ :=
            Number.isSome_compare?_iff.mp (Option.isSome_of_eq_some compared)
          exact ⟨.number askedProper storedProper, compared⟩
      | _ => cases compared
  | str asked | bare asked =>
      cases read
      cases value with
      | text stored => exact ⟨.text rfl stored, compared⟩
      | _ => cases compared
  | instant asked =>
      cases read
      cases value with
      | timestamp stored => exact ⟨.timestamp asked stored, compared⟩
      | text literal =>
          obtain ⟨written, found, ordered⟩ := Option.map_eq_some_iff.mp compared
          refine ⟨.dateLiteral asked found, ?_⟩
          simp only [FieldValue.beside, found]
          exact congrArg some ordered
      | _ => cases compared
  | list items => cases read
  | map entries => cases read

theorem isSome_compare?_iff (read : ofScalar operator argument = .ok operand) :
    (operand.compare? value).isSome = true ↔ Comparable argument value := by
  constructor
  · intro ordered
    obtain ⟨outcome, compared⟩ := Option.isSome_iff_exists.mp ordered
    exact (comparable_of_compare? read compared).1
  · intro comparable
    cases comparable with
    | text worded stored =>
        cases argument with
        | str asked | bare asked => cases read; rfl
        | _ => cases worded
    | number askedProper storedProper =>
        cases read
        exact Number.isSome_compare?_iff.mpr ⟨storedProper, askedProper⟩
    | bool asked stored => cases read; rfl
    | timestamp asked stored => cases read; rfl
    | dateLiteral asked found =>
        cases read
        rw [compare?, found]
        rfl

theorem compare?_dateLiteral {asked written : Instant} {literal : String}
    (read : ofScalar operator (.instant asked) = .ok operand)
    (found : parseDateLiteral literal = some written) :
    operand.compare? (.text literal) = operand.compare? (.timestamp (.ofInstant written)) := by
  cases read
  simp only [compare?, found, Option.map_some]

end Operand

/-! ## The operators together -/

/-- A scalar argument is read by all operators of comparison. On a value that is comparable with it, exactly
one of less, equal and greater holds, by the order in which sorting puts the two, and the others join or
negate these; on any other value none holds. The aliases hold of the same values, and a date literal is to an
instant what the instant is that it writes. -/
theorem Clause.comparisons_obey_trichotomy (field : String) (argument : Argument)
    (scalar : ¬ argument.IsCompound) :
    ∃ clause : Operator → Clause,
      (∀ operator ∈ Operator.comparisons,
        Clause.ofArgument field operator argument = .ok (clause operator)) ∧
      ∀ value : FieldValue,
        (Comparable argument value →
          (∃! operator : Operator, operator ∈ [.lt, .eq, .gt] ∧ (clause operator).holds value = true) ∧
          ((clause .ne).holds value = !(clause .eq).holds value) ∧
          ((clause .lte).holds value = ((clause .lt).holds value || (clause .eq).holds value)) ∧
          ((clause .gte).holds value = ((clause .gt).holds value || (clause .eq).holds value)) ∧
          ∃ outcome, (value.beside argument).compare? argument.fieldValue = some outcome ∧
            ∀ operator ∈ Operator.comparisons, (clause operator).holds value = operator.holds outcome) ∧
        (¬ Comparable argument value →
          ∀ operator ∈ Operator.comparisons, (clause operator).holds value = false) ∧
        ((clause .before).holds value = (clause .lt).holds value) ∧
        ((clause .after).holds value = (clause .gt).holds value) ∧
        ((clause .is).holds value = (clause .eq).holds value) ∧
        ∀ asked literal written, argument = .instant asked → value = .text literal →
          parseDateLiteral literal = some written → ∀ operator ∈ Operator.comparisons,
            (clause operator).holds value = (clause operator).holds (.timestamp (.ofInstant written)) := by
  obtain ⟨operand, read⟩ := Operand.exists_ofScalar_of_scalar scalar
  have holds {operator : Operator} (among : operator ∈ Operator.comparisons) (value : FieldValue) :
      (⟨field, operator, operand⟩ : Clause).holds value = (operand.compare? value).any operator.holds :=
    holds_of_ofScalar (Operator.mem_comparisons_iff.mp among) (read .eq) value
  refine ⟨fun operator => ⟨field, operator, operand⟩, fun operator among => ?_, fun value => ?_⟩
  · exact (ofArgument_eq_ok_iff (Operator.mem_comparisons_iff.mp among)).mpr ⟨operand, read operator, rfl⟩
  refine ⟨fun comparable => ?_, fun incomparable operator among => ?_, ?_, ?_, ?_, ?_⟩
  · obtain ⟨outcome, compared⟩ :=
      Option.isSome_iff_exists.mp ((Operand.isSome_compare?_iff (read .eq)).mpr comparable)
    have decided : ∀ operator ∈ Operator.comparisons,
        (⟨field, operator, operand⟩ : Clause).holds value = operator.holds outcome := by
      intro operator among
      rw [holds among, compared, Option.any_some]
    obtain ⟨one, unequal, lower, upper⟩ := Operator.trichotomy_of_holds decided
    exact ⟨one, unequal, lower, upper, outcome,
      (Operand.comparable_of_compare? (read .eq) compared).2, decided⟩
  · have none : operand.compare? value = none := by
      rw [← Option.not_isSome_iff_eq_none, Operand.isSome_compare?_iff (read .eq)]
      exact incomparable
    rw [holds among, none, Option.any_none]
  · rw [holds (by decide), holds (by decide)]
    rfl
  · rw [holds (by decide), holds (by decide)]
    rfl
  · rw [holds (by decide), holds (by decide)]
    rfl
  · rintro asked literal written rfl rfl found operator among
    rw [holds among, holds among, Operand.compare?_dateLiteral (read .eq) found]

theorem Clause.comparisons_of_texts_with_instant :
    let asked : Argument := .instant ⟨1704067200, 0⟩
    let earlier : FieldValue := .text "2023-12-31T23:59:59Z"
    ¬ asked.IsCompound ∧ Comparable asked earlier ∧ ¬ Comparable asked (.text "soon") ∧
      ∃ clause : Operator → Clause,
        (∀ operator ∈ Operator.comparisons, Clause.ofArgument "at" operator asked = .ok (clause operator)) ∧
        (∃! operator : Operator, operator ∈ [.lt, .eq, .gt] ∧ (clause operator).holds earlier = true) ∧
        (clause .before).holds earlier = true ∧ (clause .ne).holds (.text "soon") = false ∧
        (clause .lte).holds earlier = (clause .lte).holds (.timestamp ⟨1704067199000⟩) := by
  intro asked earlier
  have scalar : ¬ asked.IsCompound := by
    rintro (kind | kind) <;> cases kind
  have found : parseDateLiteral "2023-12-31T23:59:59Z" = some ⟨1704067199, 0⟩ := by decide +kernel
  have comparable : Comparable asked earlier := .dateLiteral _ found
  have incomparable : ¬ Comparable (.instant ⟨1704067200, 0⟩) (.text "soon") := by
    intro comparable
    cases comparable with
    | text worded => cases worded
    | dateLiteral _ read =>
        have unread : parseDateLiteral "soon" = none := by decide +kernel
        cases unread.symm.trans read
  obtain ⟨clause, reads, compared⟩ := comparisons_obey_trichotomy "at" asked scalar
  obtain ⟨one, -, -, -, outcome, ordered, decided⟩ := (compared earlier).1 comparable
  have less : (earlier.beside asked).compare? asked.fieldValue = some .lt := by decide +kernel
  obtain rfl := Option.some.inj (less.symm.trans ordered)
  have literal := (compared earlier).2.2.2.2.2 _ _ _ rfl rfl found
  refine ⟨scalar, comparable, incomparable, clause, reads, one, decided .before (by decide), ?_, ?_⟩
  · exact (compared (.text "soon")).2.1 incomparable .ne (by decide)
  · exact literal .lte (by decide)

end PipeQuery
