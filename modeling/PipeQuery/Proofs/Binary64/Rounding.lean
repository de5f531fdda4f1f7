import Mathlib.Tactic.Ring
import PipeQuery.Binary64.Basic

/-!
# Rounding of ratios

The binary number nearest to a ratio depends on the value of the ratio only, a magnitude that has a
binary number of its own is not rounded at all, and the ends of the range are where they should be.
-/

set_option autoImplicit false

namespace PipeQuery.Binary64

theorem roundHalfEven_mul_right (numerator denominator : Nat) {factor : Nat} (positive : 0 < factor) :
    roundHalfEven (numerator * factor) (denominator * factor) = roundHalfEven numerator denominator := by
  have twice : 2 * (numerator % denominator * factor) = 2 * (numerator % denominator) * factor := by
    ring
  simp only [roundHalfEven, Nat.mul_div_mul_right _ _ positive, Nat.mul_mod_mul_right, twice, gt_iff_lt,
    Nat.mul_lt_mul_right positive, Nat.mul_left_inj (Nat.pos_iff_ne_zero.mp positive)]

/-- The power of two that the significand of a rounded ratio is counted in. -/
def ratioExponent (numerator denominator : Nat) : Nat :=
  if numerator / denominator < 2 ^ 53 then 0 else (numerator / denominator).log2 - 52

theorem ofRatio_of_rounded {negative : Bool} {numerator denominator significand : Nat}
    (rounded : roundHalfEven numerator (denominator * 2 ^ ratioExponent numerator denominator) =
      significand)
    (canonical : Canonical significand (ratioExponent numerator denominator)) :
    ofRatio negative numerator denominator = .finite negative significand _ canonical := by
  have below : significand ≠ 2 ^ 53 := Nat.ne_of_lt canonical.1
  simp only [ratioExponent] at rounded canonical ⊢
  simp only [ofRatio, rounded, below, ↓reduceIte, canonical, ↓reduceDIte]

/-- The sign has no part in rounding. -/
theorem exists_ofRatio_eq (numerator denominator : Nat) : ∃ significand exponent, ∀ negative,
    ofRatio negative numerator denominator =
      if canonical : Canonical significand exponent then
        .finite negative significand exponent canonical
      else .infinite negative :=
  ⟨_, _, fun _ => rfl⟩

theorem ofRatio_of_false {numerator denominator significand exponent : Nat}
    {canonical : Canonical significand exponent}
    (unsigned : ofRatio false numerator denominator = .finite false significand exponent canonical)
    (negative : Bool) :
    ofRatio negative numerator denominator = .finite negative significand exponent canonical := by
  obtain ⟨rounded, power, value⟩ := exists_ofRatio_eq numerator denominator
  rw [value] at unsigned ⊢
  split at unsigned
  · next within =>
      rw [dif_pos within]
      cases unsigned
      rfl
  · cases unsigned

theorem ofRatio_mul_right (negative : Bool) (numerator denominator : Nat) {factor : Nat}
    (positive : 0 < factor) :
    ofRatio negative (numerator * factor) (denominator * factor) =
      ofRatio negative numerator denominator := by
  have scaled : ∀ exponent, denominator * factor * 2 ^ exponent = denominator * 2 ^ exponent * factor :=
    fun exponent => by ring
  simp only [ofRatio, Nat.mul_div_mul_right _ _ positive, scaled, roundHalfEven_mul_right _ _ positive]

theorem ratioExponent_canonical {significand exponent : Nat}
    (canonical : Canonical significand exponent) :
    ratioExponent (significand * 2 ^ exponent) 1 = exponent := by
  rw [ratioExponent, Nat.div_one]
  rcases Nat.eq_zero_or_pos exponent with rfl | positive
  · rw [Nat.pow_zero, Nat.mul_one, if_pos canonical.1]
  · have full : 2 ^ 52 ≤ significand := canonical.2.2.resolve_left (Nat.pos_iff_ne_zero.mp positive)
    have large : 2 ^ 52 * 2 ≤ significand * 2 ^ exponent :=
      Nat.mul_le_mul full (Nat.le_self_pow (Nat.pos_iff_ne_zero.mp positive) 2)
    have logarithm : (significand * 2 ^ exponent).log2 = 52 + exponent := by
      rw [Nat.log2_eq_iff (by omega), Nat.pow_add, Nat.add_right_comm, Nat.pow_add]
      exact ⟨Nat.mul_le_mul_right _ full,
        Nat.mul_lt_mul_of_pos_right canonical.1 (Nat.two_pow_pos exponent)⟩
    rw [if_neg (by omega), logarithm]
    omega

/-- A magnitude with a binary number of its own is that number. -/
theorem ofRatio_canonical (negative : Bool) {significand exponent : Nat}
    (canonical : Canonical significand exponent) :
    ofRatio negative (significand * 2 ^ exponent) 1 =
      .finite negative significand exponent canonical := by
  have counted := ratioExponent_canonical canonical
  have exact : roundHalfEven (significand * 2 ^ exponent)
      (1 * 2 ^ ratioExponent (significand * 2 ^ exponent) 1) = significand := by
    rw [counted, Nat.one_mul]
    simp [roundHalfEven, (Nat.two_pow_pos exponent).ne]
  rw [ofRatio_of_rounded exact (by rw [counted]; exact canonical)]
  simp only [counted]

theorem ofRatio_of_small (negative : Bool) {numerator denominator : Nat}
    (small : 2 * numerator < denominator) : ofRatio negative numerator denominator = zero negative := by
  have counted : ratioExponent numerator denominator = 0 := by
    rw [ratioExponent, Nat.div_eq_of_lt (by omega)]
    rfl
  have rounded : roundHalfEven numerator (denominator * 2 ^ ratioExponent numerator denominator) = 0 := by
    rw [counted, Nat.pow_zero, Nat.mul_one]
    simp only [roundHalfEven, Nat.div_eq_of_lt (show numerator < denominator by omega),
      Nat.mod_eq_of_lt (show numerator < denominator by omega)]
    rw [if_neg]
    omega
  rw [ofRatio_of_rounded rounded (by rw [counted]; decide), zero]
  congr 1

theorem ofRatio_of_large (negative : Bool) {numerator denominator : Nat} (bits : Nat)
    (beyond : 2098 ≤ bits) (large : 2 ^ bits ≤ numerator / denominator) :
    ofRatio negative numerator denominator = .infinite negative := by
  have logarithm : bits ≤ (numerator / denominator).log2 := by
    apply (Nat.le_log2 _).mpr large
    have positive := Nat.two_pow_pos bits
    omega
  have notSmall : ¬ numerator / denominator < 2 ^ 53 := by
    have grows : 2 ^ 53 ≤ 2 ^ bits := Nat.pow_le_pow_right (by decide) (by omega)
    omega
  have uncanonical : ∀ significand exponent, (numerator / denominator).log2 - 52 ≤ exponent →
      ¬ Canonical significand exponent := by
    intro significand exponent counted canonical
    have bound := canonical.2.1
    omega
  simp only [ofRatio, if_neg notSmall]
  split
  · exact dif_neg (uncanonical _ _ (Nat.le_succ _))
  · exact dif_neg (uncanonical _ _ (Nat.le_refl _))

end PipeQuery.Binary64
