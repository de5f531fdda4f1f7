import PipeQuery.Binary64.Shortest
import PipeQuery.Proofs.Binary64.Rounding

/-!
# The shortest decimal reads back

Reading a decimal rounds its exact value: the powers of ten that the reader does not compute are those
for which it need not. So digits may be moved between the significand and the power of ten, and the
shortest decimal of a binary number reads back as that number, whichever candidate was chosen.
-/

set_option autoImplicit false

namespace PipeQuery.Binary64

/-- The binary number nearest to a decimal, with every power of ten computed. -/
def ofDecimalExact (negative : Bool) (decimal : Decimal) : Binary64 :=
  if decimal.exponent ≥ 0 then
    ofRatio negative (decimal.digits * 10 ^ decimal.exponent.toNat * unitsPerOne) 1
  else ofRatio negative (decimal.digits * unitsPerOne) (10 ^ (-decimal.exponent).toNat)

theorem two_pow_le_ten_pow (power : Nat) : 2 ^ (3 * power) ≤ 10 ^ power := by
  rw [Nat.pow_mul]
  exact Nat.pow_le_pow_left (by decide) power

theorem ofDecimalExact_of_beyond (negative : Bool) {decimal : Decimal} (some? : decimal.digits ≠ 0)
    (beyond : decimal.exponent > 400) : ofDecimalExact negative decimal = .infinite negative := by
  rw [ofDecimalExact, if_pos (by omega)]
  apply ofRatio_of_large negative (3 * decimal.exponent.toNat + unitBits)
  · simp only [unitBits]
    omega
  · rw [Nat.div_one, Nat.pow_add, unitsPerOne]
    apply Nat.mul_le_mul_right
    exact Nat.le_trans (two_pow_le_ten_pow _) (Nat.le_mul_of_pos_left _ (Nat.pos_of_ne_zero some?))

theorem ofDecimalExact_of_below (negative : Bool) {decimal : Decimal}
    (below : decimal.exponent + decimal.digits.log2 + 1 < -400) :
    ofDecimalExact negative decimal = zero negative := by
  rw [ofDecimalExact, if_neg (by omega)]
  apply ofRatio_of_small
  have digits : decimal.digits < 2 ^ (decimal.digits.log2 + 1) := Nat.lt_log2_self
  calc 2 * (decimal.digits * unitsPerOne)
      < 2 * (2 ^ (decimal.digits.log2 + 1) * 2 ^ unitBits) :=
        Nat.mul_lt_mul_of_pos_left
          (Nat.mul_lt_mul_of_pos_right digits (Nat.two_pow_pos unitBits)) (by decide)
    _ = 2 ^ (decimal.digits.log2 + 1 + unitBits + 1) := by
        rw [Nat.pow_succ _ (_ + unitBits), Nat.pow_add]
        ring
    _ ≤ 2 ^ (3 * (-decimal.exponent).toNat) :=
        Nat.pow_le_pow_right (by decide) (by simp only [unitBits]; omega)
    _ ≤ 10 ^ (-decimal.exponent).toNat := two_pow_le_ten_pow _

theorem ofDecimalExact_zero (negative : Bool) {decimal : Decimal} (none? : decimal.digits = 0) :
    ofDecimalExact negative decimal = zero negative := by
  unfold ofDecimalExact
  split
  · exact ofRatio_of_small negative (by simp [none?])
  · exact ofRatio_of_small negative (by simp [none?])

/-- The powers of ten that are not computed make no difference. -/
theorem ofDecimal_eq_exact (negative : Bool) (decimal : Decimal) :
    ofDecimal negative decimal = ofDecimalExact negative decimal := by
  unfold ofDecimal
  split
  · next none? => exact (ofDecimalExact_zero negative none?).symm
  split
  · next some? beyond => exact (ofDecimalExact_of_beyond negative some? beyond).symm
  split
  · next below => exact (ofDecimalExact_of_below negative below).symm
  · rfl

theorem ten_pow_pos (power : Nat) : 0 < 10 ^ power :=
  Nat.pow_pos (by decide)

/-- The ratio of a decimal over any power of ten that is large enough. -/
theorem ofDecimalExact_eq_ofRatio (negative : Bool) (decimal : Decimal) (places : Nat)
    (enough : 0 ≤ decimal.exponent + places) :
    ofDecimalExact negative decimal =
      ofRatio negative (decimal.digits * 10 ^ (decimal.exponent + places).toNat * unitsPerOne)
        (10 ^ places) := by
  unfold ofDecimalExact
  generalize unitsPerOne = units
  split
  · next whole =>
      have powers : (decimal.exponent + places).toNat = decimal.exponent.toNat + places := by omega
      have numerator : decimal.digits * 10 ^ (decimal.exponent + places).toNat * units =
          decimal.digits * 10 ^ decimal.exponent.toNat * units * 10 ^ places := by
        rw [powers]
        ring
      rw [numerator, ← ofRatio_mul_right negative _ 1 (ten_pow_pos places), Nat.one_mul]
  · next fraction =>
      have powers : places = (-decimal.exponent).toNat + (decimal.exponent + places).toNat := by omega
      have denominator : 10 ^ places =
          10 ^ (-decimal.exponent).toNat * 10 ^ (decimal.exponent + places).toNat := by
        rw [← Nat.pow_add, ← powers]
      rw [denominator, Nat.mul_right_comm, ofRatio_mul_right negative _ _ (ten_pow_pos _)]

/-- A power of ten may stand among the digits or in the exponent. -/
theorem ofDecimal_shift (negative : Bool) (digits power : Nat) (exponent : Int) :
    ofDecimal negative ⟨digits * 10 ^ power, exponent⟩ = ofDecimal negative ⟨digits, exponent + power⟩ := by
  have places : (exponent + power + exponent.natAbs).toNat =
      (exponent + exponent.natAbs).toNat + power := by omega
  rw [ofDecimal_eq_exact, ofDecimal_eq_exact,
    ofDecimalExact_eq_ofRatio negative ⟨digits * 10 ^ power, exponent⟩ exponent.natAbs
      (show 0 ≤ exponent + exponent.natAbs by omega),
    ofDecimalExact_eq_ofRatio negative ⟨digits, exponent + power⟩ exponent.natAbs
      (show 0 ≤ exponent + power + exponent.natAbs by omega)]
  generalize unitsPerOne = units
  simp only [places, Nat.pow_add, Nat.mul_assoc, Nat.mul_left_comm (10 ^ power)]

theorem ofDecimal_of_false {decimal : Decimal} {significand exponent : Nat}
    {canonical : Canonical significand exponent}
    (unsigned : ofDecimal false decimal = .finite false significand exponent canonical)
    (negative : Bool) : ofDecimal negative decimal = .finite negative significand exponent canonical := by
  rw [ofDecimal_eq_exact] at unsigned ⊢
  unfold ofDecimalExact at unsigned ⊢
  split at unsigned
  · next whole => rw [if_pos whole, ofRatio_of_false unsigned]
  · next fraction => rw [if_neg fraction, ofRatio_of_false unsigned]

end PipeQuery.Binary64

namespace PipeQuery.Decimal

open Binary64

theorem ofDecimal_stripZeros (negative : Bool) (decimal : Decimal) :
    ofDecimal negative (stripZeros decimal) = ofDecimal negative decimal := by
  induction decimal using stripZeros.induct with
  | case1 decimal trailing ih =>
      have digits : decimal.digits / 10 * 10 ^ 1 = decimal.digits := by omega
      rw [stripZeros, if_pos trailing, ih, ← Nat.cast_one, ← ofDecimal_shift, digits]
  | case2 decimal trailing => rw [stripZeros, if_neg trailing]

theorem ofDecimal_ofUnits (negative : Bool) {significand exponent : Nat}
    (canonical : Canonical significand exponent) :
    ofDecimal negative (ofUnits (significand * 2 ^ exponent)) =
      .finite negative significand exponent canonical := by
  rw [ofDecimal_eq_exact, ofDecimalExact_eq_ofRatio negative _ unitBits (by simp [ofUnits]),
    ← ofRatio_canonical negative canonical,
    ← ofRatio_mul_right negative _ 1 (Nat.pow_pos (n := unitBits) (show 0 < 10 by decide)), Nat.one_mul]
  have tens : 10 ^ unitBits = 5 ^ unitBits * 2 ^ unitBits := by rw [← Nat.mul_pow]
  simp only [ofUnits, neg_add_cancel, Int.toNat_zero, Nat.pow_zero, Nat.mul_one, unitsPerOne]
  rw [tens, Nat.mul_assoc]

theorem ofDecimal_of_atScale? {tie : Tie} {number : Binary64} {units : Nat} {exponent : Int}
    {decimal : Decimal} (found : atScale? tie number units exponent = some decimal) :
    ofDecimal false decimal = number := by
  have reads := List.find?_some found
  exact eq_of_beq reads

/-- The shortest decimal reads back as the number it was found for. -/
theorem ofDecimal_shortest (tie : Tie) {significand exponent : Nat}
    (canonical : Canonical significand exponent) :
    ofDecimal false (shortest tie significand exponent canonical) =
      .finite false significand exponent canonical := by
  unfold shortest
  split
  · next none? =>
      subst none?
      have least : exponent = 0 := by
        rcases canonical.2.2 with least | full
        · exact least
        · omega
      subst least
      rfl
  · rw [ofDecimal_stripZeros]
    cases chosen : (List.range 17).map (fun more : Nat =>
        leastPowerAbove (significand * 2 ^ exponent) - 1 - (more : Int)) |>.findSome?
          (atScale? tie (.finite false significand exponent canonical) (significand * 2 ^ exponent)) with
    | none => simp only [Option.getD_none, ofDecimal_ofUnits false canonical]
    | some decimal =>
        obtain ⟨scale, _, found⟩ := List.exists_of_findSome?_eq_some chosen
        simp only [Option.getD_some, ofDecimal_of_atScale? found]

end PipeQuery.Decimal
