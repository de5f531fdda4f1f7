import PipeQuery.Number.Basic

/-!
# The exact order of numbers

The value of a number in units is an integer, whatever the kind of the number. Numbers of one kind are
compared by it, numbers of different kinds by the values of the binary numbers to which they are rounded.
-/

set_option autoImplicit false

namespace PipeQuery

/-! ## The order of binary numbers -/

theorem Binary64.compare?_of_units {left right : Binary64} {leftUnits rightUnits : Int}
    (leftValue : left.units? = some leftUnits) (rightValue : right.units? = some rightUnits) :
    left.compare? right = some (compare leftUnits rightUnits) := by
  simp [compare?, leftValue, rightValue]

theorem Binary64.compare?_swap (left right : Binary64) :
    left.compare? right = (right.compare? left).map Ordering.swap := by
  cases leftValue : left.units? with
  | none => cases rightValue : right.units? <;> simp [compare?, leftValue, rightValue]
  | some leftUnits =>
      cases rightValue : right.units? with
      | none => simp [compare?, leftValue, rightValue]
      | some rightUnits =>
          rw [compare?_of_units leftValue rightValue, compare?_of_units rightValue leftValue,
            Option.map_some, ← Std.OrientedOrd.eq_swap]

theorem Binary64.exists_units {value : Binary64} (number : value ≠ .nan) :
    ∃ units, value.units? = some units := by
  cases value with
  | nan => exact absurd rfl number
  | infinite => exact ⟨_, rfl⟩
  | finite => exact ⟨_, rfl⟩

/-! ## The order of numbers -/

namespace Number

/-- The value in units, where an infinity stands beyond all finite numbers. -/
def units? : Number → Option Int
  | .signed value => some (value.toInt * Binary64.unitsPerOne)
  | .unsigned value => some (value.toNat * Binary64.unitsPerOne)
  | .float value => value.units?

/-- Both numbers are of one kind. -/
def SameKind : Number → Number → Prop
  | .signed _, .signed _ => True
  | .unsigned _, .unsigned _ => True
  | .float _, .float _ => True
  | _, _ => False

/-- Rounding to a binary number leaves the value as it is. -/
def IsExact (number : Number) : Prop :=
  ∃ units, number.units? = some units ∧ number.toBinary64.units? = some units

theorem compare_mul_unitsPerOne (left right : Int) :
    compare (left * Binary64.unitsPerOne) (right * Binary64.unitsPerOne) = compare left right := by
  have positive : (0 : Int) < Binary64.unitsPerOne := Int.natCast_pos.mpr (Nat.two_pow_pos _)
  rcases Int.lt_trichotomy left right with less | rfl | greater
  · rw [Int.compare_eq_lt.mpr less, Int.compare_eq_lt.mpr (Int.mul_lt_mul_of_pos_right less positive)]
  · rw [Int.compare_eq_eq.mpr rfl, Int.compare_eq_eq.mpr rfl]
  · rw [Int.compare_eq_gt.mpr greater,
      Int.compare_eq_gt.mpr (Int.mul_lt_mul_of_pos_right greater positive)]

theorem compare_natCast (left right : Nat) : compare (left : Int) right = compare left right := by
  rcases Nat.lt_trichotomy left right with less | rfl | greater
  · rw [Int.compare_eq_lt.mpr (Int.ofNat_lt.mpr less), Nat.compare_eq_lt.mpr less]
  · rw [Int.compare_eq_eq.mpr rfl, Nat.compare_eq_eq.mpr rfl]
  · rw [Int.compare_eq_gt.mpr (Int.ofNat_lt.mpr greater), Nat.compare_eq_gt.mpr greater]

theorem compare?_swap (left right : Number) :
    left.compare? right = (right.compare? left).map Ordering.swap := by
  cases left with
  | signed left =>
      cases right with
      | signed right => exact congrArg some Std.OrientedOrd.eq_swap
      | unsigned right => exact Binary64.compare?_swap (toBinary64 _) (toBinary64 _)
      | float right => exact Binary64.compare?_swap (toBinary64 _) _
  | unsigned left =>
      cases right with
      | signed right => exact Binary64.compare?_swap (toBinary64 _) (toBinary64 _)
      | unsigned right => exact congrArg some Std.OrientedOrd.eq_swap
      | float right => exact Binary64.compare?_swap (toBinary64 _) _
  | float left =>
      cases right with
      | signed right => exact Binary64.compare?_swap _ (toBinary64 _)
      | unsigned right => exact Binary64.compare?_swap _ (toBinary64 _)
      | float right => exact Binary64.compare?_swap _ _

theorem compare?_of_not_sameKind {left right : Number} (different : ¬ left.SameKind right) :
    left.compare? right = left.toBinary64.compare? right.toBinary64 := by
  cases left <;> cases right <;> first | exact absurd trivial different | rfl

theorem compare?_of_sameKind {left right : Number} {leftUnits rightUnits : Int}
    (same : left.SameKind right) (leftValue : left.units? = some leftUnits)
    (rightValue : right.units? = some rightUnits) :
    left.compare? right = some (compare leftUnits rightUnits) := by
  cases left with
  | signed left =>
      cases right with
      | signed right =>
          cases leftValue
          cases rightValue
          rw [compare?, compare_mul_unitsPerOne]
      | unsigned => exact same.elim
      | float => exact same.elim
  | unsigned left =>
      cases right with
      | signed => exact same.elim
      | unsigned right =>
          cases leftValue
          cases rightValue
          rw [compare?, compare_mul_unitsPerOne, compare_natCast]
      | float => exact same.elim
  | float left =>
      cases right with
      | signed => exact same.elim
      | unsigned => exact same.elim
      | float right => exact Binary64.compare?_of_units leftValue rightValue

end Number

end PipeQuery
