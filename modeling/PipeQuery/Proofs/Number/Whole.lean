import PipeQuery.Proofs.Number.Order

/-!
# Numbers as counts

A number is read as an unsigned integer of 64 bits if its value is one, and the integer is the value. Only a
float may be one unit too large: the power of two that is the first value out of range is still read, as the
greatest integer in range.
-/

set_option autoImplicit false

namespace PipeQuery

namespace Binary64

theorem withSign_eq_natCast_iff {negative : Bool} {magnitude whole : Nat} :
    withSign negative magnitude = (whole : Int) ↔
      magnitude = whole ∧ (negative = false ∨ magnitude = 0) := by
  cases negative with
  | false => simp [withSign]
  | true =>
      simp only [withSign, ↓reduceIte, reduceCtorEq, false_or]
      omega

/-- A finite number is a natural number if its value in units is that many times one. -/
theorem toNat?_eq_some_iff {value : Binary64} {whole : Nat} (finite : value.isFinite = true) :
    value.toNat? = some whole ↔ value.units? = some ((whole : Int) * unitsPerOne) := by
  cases value with
  | nan => cases finite
  | infinite => cases finite
  | finite negative significand exponent canonical =>
      have positive : 0 < unitsPerOne := Nat.two_pow_pos unitBits
      rw [units?_finite, Option.some.injEq, ← Int.natCast_mul, withSign_eq_natCast_iff, toNat?]
      generalize significand * 2 ^ exponent = magnitude
      generalize unitsPerOne = one at positive
      rw [Option.ite_none_right_eq_some, Option.some.injEq]
      constructor
      · rintro ⟨⟨divides, sign⟩, rfl⟩
        exact ⟨(Nat.div_mul_cancel (Nat.dvd_of_mod_eq_zero divides)).symm, sign⟩
      · rintro ⟨rfl, sign⟩
        exact ⟨⟨Nat.mul_mod_left _ _, sign⟩, Nat.mul_div_cancel _ positive⟩

theorem isFinite_of_toNat? {value : Binary64} {whole : Nat} (read : value.toNat? = some whole) :
    value.isFinite = true := by
  cases value with
  | nan => cases read
  | infinite => cases read
  | finite => rfl

/-- An infinity stands beyond all integers of 64 bits. -/
theorem isFinite_of_units?_eq {value : Binary64} {whole : Nat} (bounded : whole ≤ 2 ^ 64)
    (found : value.units? = some ((whole : Int) * unitsPerOne)) : value.isFinite = true := by
  cases value with
  | nan => cases found
  | finite => rfl
  | infinite negative =>
      rw [units?_infinite, Option.some.injEq, ← Int.natCast_mul, withSign_eq_natCast_iff] at found
      have below : whole * unitsPerOne ≤ 2 ^ (64 + unitBits) := by
        rw [Nat.pow_add, ← unitsPerOne]
        exact Nat.mul_le_mul_right unitsPerOne bounded
      have beyond : 2 ^ (64 + unitBits) < 2 ^ infinityBits := Nat.pow_lt_pow_right (by decide) (by decide)
      exact absurd found.1 (Nat.ne_of_gt (Nat.lt_of_le_of_lt below beyond))

end Binary64

namespace Number

/-- The value of the number is the natural number. -/
def IsWhole (number : Number) (whole : Nat) : Prop :=
  number.units? = some ((whole : Int) * Binary64.unitsPerOne)

instance (number : Number) (whole : Nat) : Decidable (number.IsWhole whole) :=
  inferInstanceAs (Decidable (_ = _))

variable {number : Number} {whole : Nat}

theorem mul_unitsPerOne_inj {left right : Int} :
    left * Binary64.unitsPerOne = right * Binary64.unitsPerOne ↔ left = right :=
  Int.mul_eq_mul_right_iff (Int.natCast_ne_zero.mpr (Nat.two_pow_pos Binary64.unitBits).ne')

theorem isWhole_signed_iff {value : Int64} : (signed value).IsWhole whole ↔ value.toInt = whole := by
  rw [IsWhole, units?, Option.some.injEq, mul_unitsPerOne_inj]

theorem isWhole_unsigned_iff {value : UInt64} : (unsigned value).IsWhole whole ↔ value.toNat = whole := by
  rw [IsWhole, units?, Option.some.injEq, mul_unitsPerOne_inj, Int.natCast_inj]

theorem isWhole_float_iff {value : Binary64} (bounded : whole ≤ 2 ^ 64) :
    (float value).IsWhole whole ↔ value.toNat? = some whole := by
  constructor
  · intro found
    exact (Binary64.toNat?_eq_some_iff (Binary64.isFinite_of_units?_eq bounded found)).mpr found
  · intro read
    exact (Binary64.toNat?_eq_some_iff (Binary64.isFinite_of_toNat? read)).mp read

/-- A number in range is read as its value, and the first one out of range as the greatest in range. -/
theorem toUInt64?_of_isWhole (bounded : whole ≤ 2 ^ 64) (value : number.IsWhole whole) :
    number.toUInt64? = some (UInt64.ofNat (min whole (2 ^ 64 - 1))) := by
  cases number with
  | signed integer =>
      have same := isWhole_signed_iff.mp value
      have small := integer.toInt_lt
      rw [toUInt64?, same, if_pos (Int.natCast_nonneg whole), Int.toNat_natCast, Nat.min_eq_left (by omega)]
  | unsigned integer =>
      obtain rfl := isWhole_unsigned_iff.mp value
      have small := integer.toNat_lt
      rw [toUInt64?, Nat.min_eq_left (by omega), UInt64.ofNat_toNat]
  | float binary =>
      have read := (isWhole_float_iff bounded).mp value
      rw [toUInt64?, read]
      rcases Nat.lt_or_eq_of_le bounded with below | rfl
      · rw [Nat.min_eq_left (by omega)]
        exact if_pos below
      · -- The bound of the range is rounded up to this value, so it passes, and the cast saturates.
        rfl

theorem exists_isWhole_of_toUInt64? {count : UInt64} (read : number.toUInt64? = some count) :
    ∃ whole ≤ 2 ^ 64, number.IsWhole whole := by
  cases number with
  | signed integer =>
      obtain ⟨positive, -⟩ := Option.ite_none_right_eq_some.mp read
      have small := integer.toInt_lt
      exact ⟨integer.toInt.toNat, by omega, isWhole_signed_iff.mpr (Int.toNat_of_nonneg positive).symm⟩
  | unsigned integer => exact ⟨integer.toNat, integer.toNat_lt.le, isWhole_unsigned_iff.mpr rfl⟩
  | float binary =>
      rw [toUInt64?] at read
      cases found : binary.toNat? with
      | none =>
          rw [found] at read
          cases read
      | some whole =>
          have bounded : whole ≤ 2 ^ 64 := by
            by_contra beyond
            simp [found, show ¬ whole < 2 ^ 64 by omega, show whole ≠ 2 ^ 64 by omega] at read
          exact ⟨whole, bounded, (isWhole_float_iff bounded).mpr found⟩

theorem toUInt64?_eq_none_iff : number.toUInt64? = none ↔ ∀ whole ≤ 2 ^ 64, ¬ number.IsWhole whole := by
  constructor
  · intro unread whole bounded value
    cases unread.symm.trans (toUInt64?_of_isWhole bounded value)
  · intro none
    cases read : number.toUInt64? with
    | none => rfl
    | some count =>
        obtain ⟨whole, bounded, value⟩ := exists_isWhole_of_toUInt64? read
        exact absurd value (none whole bounded)

theorem toUInt64?_ofUInt64 (word : UInt64) : (ofUInt64 word).toUInt64? = some word := by
  rw [ofUInt64]
  split
  next small =>
    have same : (Int64.ofNat word.toNat).toInt = word.toNat := Int64.toInt_ofNat_of_lt small
    rw [toUInt64?, same, if_pos (Int.natCast_nonneg _), Int.toNat_natCast, UInt64.ofNat_toNat]
  next => rfl

/-- But for the first value out of range, numbers are read as their values and all others are not read. -/
theorem toUInt64?_eq_some_iff {count : UInt64} (inside : ¬ number.IsWhole (2 ^ 64)) :
    number.toUInt64? = some count ↔ number.IsWhole count.toNat := by
  constructor
  · intro read
    obtain ⟨whole, bounded, value⟩ := exists_isWhole_of_toUInt64? read
    have below : whole < 2 ^ 64 := Nat.lt_of_le_of_ne bounded fun same => inside (same ▸ value)
    have same := Option.some.inj (read.symm.trans (toUInt64?_of_isWhole bounded value))
    rw [Nat.min_eq_left (by omega)] at same
    rw [same, UInt64.toNat_ofNat_of_lt' below]
    exact value
  · intro value
    have below := count.toNat_lt
    rw [toUInt64?_of_isWhole below.le value, Nat.min_eq_left (by omega), UInt64.ofNat_toNat]

end Number

end PipeQuery
