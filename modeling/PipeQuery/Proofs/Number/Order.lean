import PipeQuery.Proofs.Binary64.Nearest
import PipeQuery.Proofs.Number.Units

/-!
# Where comparison leaves the order of values

Rounding keeps the order of values, so comparison never turns two numbers round. All that it can do is to
take two numbers of different kinds for equal that round to one binary number. Apart from those numbers it
is the order of values.
-/

set_option autoImplicit false

namespace PipeQuery.Number

variable {left right third : Number} {leftUnits rightUnits : Int}

/-! ## Values -/

theorem exists_units {number : Number} (proper : number ≠ .float .nan) :
    ∃ units, number.units? = some units := by
  cases number with
  | signed value => exact ⟨_, rfl⟩
  | unsigned value => exact ⟨_, rfl⟩
  | float value => exact Binary64.exists_units fun same => proper (congrArg float same)

theorem units?_toBinary64 {number : Number} {units : Int} (value : number.units? = some units) :
    number.toBinary64.units? = some (Binary64.nearest units) := by
  cases number with
  | signed integer =>
      cases value
      exact Binary64.units?_ofInt _
  | unsigned integer =>
      cases value
      exact Binary64.units?_ofInt _
  | float binary => rw [Binary64.nearest_units value]; exact value

theorem isExact_float {value : Binary64} (number : value ≠ .nan) : (float value).IsExact := by
  obtain ⟨units, found⟩ := Binary64.exists_units number
  exact ⟨units, found, found⟩

/-- Integers of at most fifty-three bits, and the next power of two, are left as they are. -/
theorem isExact_of_natAbs_le {number : Number} {value : Int}
    (whole : number.units? = some (value * Binary64.unitsPerOne)) (small : value.natAbs ≤ 2 ^ 53) :
    number.IsExact := by
  refine ⟨_, whole, ?_⟩
  rw [units?_toBinary64 whole, Binary64.nearest_mul_unitsPerOne small]

/-! ## Numbers that are taken for equal -/

instance (left right : Number) : Decidable (left.SameKind right) := by
  cases left <;> cases right <;> first | exact isTrue trivial | exact isFalse id

/-- The numbers differ in kind and in value, and one binary number is nearest to both. -/
def RoundedTogether (left right : Number) : Prop :=
  ¬ left.SameKind right ∧ left.units? ≠ right.units? ∧
    left.toBinary64.units? = right.toBinary64.units?

instance (left right : Number) : Decidable (left.RoundedTogether right) :=
  inferInstanceAs (Decidable (_ ∧ _ ∧ _))

theorem not_roundedTogether_of_sameKind (same : left.SameKind right) : ¬ left.RoundedTogether right :=
  fun together => together.1 same

theorem not_roundedTogether_of_isExact (leftExact : left.IsExact) (rightExact : right.IsExact) :
    ¬ left.RoundedTogether right := by
  rintro ⟨-, different, together⟩
  obtain ⟨leftUnits, leftValue, leftRounded⟩ := leftExact
  obtain ⟨rightUnits, rightValue, rightRounded⟩ := rightExact
  rw [leftRounded, rightRounded, ← leftValue, ← rightValue] at together
  exact different together

theorem compare?_of_roundedTogether (rightProper : right ≠ .float .nan)
    (together : left.RoundedTogether right) : left.compare? right = some .eq := by
  obtain ⟨different, -, rounded⟩ := together
  obtain ⟨rightUnits, rightValue⟩ := exists_units rightProper
  have rightRounded := units?_toBinary64 rightValue
  rw [compare?_of_not_sameKind different,
    Binary64.compare?_of_units (rounded.trans rightRounded) rightRounded, Int.compare_eq_eq.mpr rfl]

/-! ## All other numbers -/

/-- Numbers that are not taken for equal are compared by their values. -/
theorem compare?_of_not_roundedTogether (leftValue : left.units? = some leftUnits)
    (rightValue : right.units? = some rightUnits) (apart : ¬ left.RoundedTogether right) :
    left.compare? right = some (compare leftUnits rightUnits) := by
  by_cases same : left.SameKind right
  · exact compare?_of_sameKind same leftValue rightValue
  have leftRounded := units?_toBinary64 leftValue
  have rightRounded := units?_toBinary64 rightValue
  rw [compare?_of_not_sameKind same, Binary64.compare?_of_units leftRounded rightRounded]
  have distinct (different : leftUnits ≠ rightUnits) :
      Binary64.nearest leftUnits ≠ Binary64.nearest rightUnits := by
    intro together
    refine apart ⟨same, ?_, ?_⟩
    · rw [leftValue, rightValue]
      exact fun equal => different (Option.some.inj equal)
    · rw [leftRounded, rightRounded, together]
  rcases Int.lt_trichotomy leftUnits rightUnits with less | rfl | greater
  · rw [Int.compare_eq_lt.mpr less, Int.compare_eq_lt.mpr]
    exact lt_of_le_of_ne (Binary64.nearest_mono less.le) (distinct less.ne)
  · rw [Int.compare_eq_eq.mpr rfl, Int.compare_eq_eq.mpr rfl]
  · rw [Int.compare_eq_gt.mpr greater, Int.compare_eq_gt.mpr]
    exact lt_of_le_of_ne (Binary64.nearest_mono greater.le) (distinct greater.ne').symm

/-- Comparison gives the order of values but for the numbers that it takes for equal. -/
theorem exists_units_compare? (leftProper : left ≠ .float .nan) (rightProper : right ≠ .float .nan) :
    ∃ leftUnits rightUnits, left.units? = some leftUnits ∧ right.units? = some rightUnits ∧
      left.compare? right =
        some (if left.RoundedTogether right then .eq else compare leftUnits rightUnits) := by
  obtain ⟨leftUnits, leftValue⟩ := exists_units leftProper
  obtain ⟨rightUnits, rightValue⟩ := exists_units rightProper
  refine ⟨leftUnits, rightUnits, leftValue, rightValue, ?_⟩
  split
  next together => exact compare?_of_roundedTogether rightProper together
  next apart => exact compare?_of_not_roundedTogether leftValue rightValue apart

theorem compare?_nan_left (right : Number) : (float .nan).compare? right = none := by
  cases right <;> rfl

theorem compare?_nan_right (left : Number) : left.compare? (float .nan) = none := by
  rw [compare?_swap, compare?_nan_left, Option.map_none]

theorem isSome_compare?_iff :
    (left.compare? right).isSome = true ↔ left ≠ .float .nan ∧ right ≠ .float .nan := by
  constructor
  · intro ordered
    constructor
    · rintro rfl
      rw [compare?_nan_left] at ordered
      cases ordered
    · rintro rfl
      rw [compare?_nan_right] at ordered
      cases ordered
  · rintro ⟨leftProper, rightProper⟩
    obtain ⟨_, _, _, _, compared⟩ := exists_units_compare? leftProper rightProper
    rw [compared, Option.isSome_some]

/-- Numbers compare as equal if they have one value or are taken for equal. -/
theorem compare?_eq_iff (rightProper : right ≠ .float .nan) :
    left.compare? right = some .eq ↔ left.units? = right.units? ∨ left.RoundedTogether right := by
  obtain ⟨rightUnits, rightValue⟩ := exists_units rightProper
  constructor
  · intro equal
    have leftProper := (isSome_compare?_iff.mp (Option.isSome_of_eq_some equal)).1
    obtain ⟨leftUnits, leftValue⟩ := exists_units leftProper
    by_cases together : left.RoundedTogether right
    · exact .inr together
    · rw [compare?_of_not_roundedTogether leftValue rightValue together] at equal
      rw [leftValue, rightValue, Int.compare_eq_eq.mp (Option.some.inj equal)]
      exact .inl rfl
  · rintro (same | together)
    · have apart : ¬ left.RoundedTogether right := fun together => together.2.1 same
      rw [compare?_of_not_roundedTogether (same.trans rightValue) rightValue apart,
        Int.compare_eq_eq.mpr rfl]
    · exact compare?_of_roundedTogether rightProper together

theorem exists_units_of_compare?_lt (less : left.compare? right = some .lt) :
    ∃ leftUnits rightUnits, left.units? = some leftUnits ∧ right.units? = some rightUnits ∧
      leftUnits < rightUnits := by
  obtain ⟨leftProper, rightProper⟩ := isSome_compare?_iff.mp (Option.isSome_of_eq_some less)
  obtain ⟨leftUnits, rightUnits, leftValue, rightValue, compared⟩ :=
    exists_units_compare? leftProper rightProper
  refine ⟨leftUnits, rightUnits, leftValue, rightValue, ?_⟩
  rw [less] at compared
  split at compared
  · cases compared
  · exact Int.compare_eq_lt.mp (Option.some.inj compared).symm

theorem units?_ne_of_compare?_lt (less : left.compare? right = some .lt) :
    left.units? ≠ right.units? := by
  obtain ⟨leftUnits, rightUnits, leftValue, rightValue, below⟩ := exists_units_of_compare?_lt less
  rw [leftValue, rightValue]
  exact fun same => below.ne (Option.some.inj same)

/-! ## Transitivity -/

theorem SameKind.trans (first : left.SameKind right) (second : right.SameKind third) :
    left.SameKind third := by
  cases left <;> cases right <;> cases third <;> trivial

/-- Where one number is less than the next and both round to one binary number, they are of one kind. -/
theorem sameKind_of_compare?_lt (less : left.compare? right = some .lt)
    (rounded : left.toBinary64.units? = right.toBinary64.units?) : left.SameKind right := by
  by_contra kinds
  have proper := (isSome_compare?_iff.mp (Option.isSome_of_eq_some less)).2
  rw [compare?_of_roundedTogether proper ⟨kinds, units?_ne_of_compare?_lt less, rounded⟩] at less
  cases less

theorem compare?_lt_trans (first : left.compare? right = some .lt)
    (second : right.compare? third = some .lt) : left.compare? third = some .lt := by
  obtain ⟨leftUnits, rightUnits, leftValue, rightValue, lower⟩ := exists_units_of_compare?_lt first
  obtain ⟨_, thirdUnits, found, thirdValue, upper⟩ := exists_units_of_compare?_lt second
  obtain rfl := Option.some.inj (rightValue.symm.trans found)
  have apart : ¬ left.RoundedTogether third := by
    rintro ⟨different, -, rounded⟩
    -- All three would round to one binary number, so that each two neighbours were of one kind.
    rw [units?_toBinary64 leftValue, units?_toBinary64 thirdValue] at rounded
    have squeezed : Binary64.nearest leftUnits = Binary64.nearest rightUnits := by
      refine le_antisymm (Binary64.nearest_mono lower.le) ?_
      rw [Option.some.inj rounded]
      exact Binary64.nearest_mono upper.le
    have lowerRounded : left.toBinary64.units? = right.toBinary64.units? := by
      rw [units?_toBinary64 leftValue, units?_toBinary64 rightValue, squeezed]
    have upperRounded : right.toBinary64.units? = third.toBinary64.units? := by
      rw [units?_toBinary64 rightValue, units?_toBinary64 thirdValue, ← squeezed, rounded]
    exact different ((sameKind_of_compare?_lt first lowerRounded).trans
      (sameKind_of_compare?_lt second upperRounded))
  rw [compare?_of_not_roundedTogether leftValue thirdValue apart,
    Int.compare_eq_lt.mpr (Int.lt_trans lower upper)]

/-- That one number is not greater than another is transitive among numbers of which no two are taken for
equal. -/
theorem compare?_ne_gt_trans (leftProper : left ≠ .float .nan) (rightProper : right ≠ .float .nan)
    (thirdProper : third ≠ .float .nan) (lower : ¬ left.RoundedTogether right)
    (upper : ¬ right.RoundedTogether third) (outer : ¬ left.RoundedTogether third)
    (first : left.compare? right ≠ some .gt) (second : right.compare? third ≠ some .gt) :
    left.compare? third ≠ some .gt := by
  obtain ⟨leftUnits, leftValue⟩ := exists_units leftProper
  obtain ⟨rightUnits, rightValue⟩ := exists_units rightProper
  obtain ⟨thirdUnits, thirdValue⟩ := exists_units thirdProper
  rw [compare?_of_not_roundedTogether leftValue rightValue lower] at first
  rw [compare?_of_not_roundedTogether rightValue thirdValue upper] at second
  rw [compare?_of_not_roundedTogether leftValue thirdValue outer]
  simp only [ne_eq, Option.some.injEq, Int.compare_eq_gt, Int.not_lt] at first second ⊢
  exact Int.le_trans first second

end PipeQuery.Number
