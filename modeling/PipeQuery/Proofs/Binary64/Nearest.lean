import PipeQuery.Proofs.Binary64.Rounding

/-!
# Rounding keeps the order

Rounding an integer of units to a binary number never turns two integers round, and it leaves alone every
integer whose bits from the first to the last that is set fit into a significand. Infinities stand where
their units put them, so nothing has to be said about overflow.
-/

set_option autoImplicit false

namespace PipeQuery.Binary64

/-! ## Magnitudes -/

theorem div_le_roundHalfEven (numerator denominator : Nat) :
    numerator / denominator ≤ roundHalfEven numerator denominator := by
  dsimp only [roundHalfEven]
  split <;> omega

theorem roundHalfEven_le_div_add_one (numerator denominator : Nat) :
    roundHalfEven numerator denominator ≤ numerator / denominator + 1 := by
  dsimp only [roundHalfEven]
  split <;> omega

theorem roundHalfEven_mono {smaller larger : Nat} (denominator : Nat) (ascends : smaller ≤ larger) :
    roundHalfEven smaller denominator ≤ roundHalfEven larger denominator := by
  have quotients : smaller / denominator ≤ larger / denominator := Nat.div_le_div_right ascends
  rcases Nat.lt_or_eq_of_le quotients with less | same
  · calc roundHalfEven smaller denominator
        ≤ smaller / denominator + 1 := roundHalfEven_le_div_add_one _ _
      _ ≤ larger / denominator := less
      _ ≤ roundHalfEven larger denominator := div_le_roundHalfEven _ _
  · have remainders : smaller % denominator ≤ larger % denominator := by
      have whole := Nat.div_add_mod smaller denominator
      have others := Nat.div_add_mod larger denominator
      rw [same] at whole
      omega
    simp only [roundHalfEven, same]
    split <;> split <;> omega

theorem roundHalfEven_of_dvd {numerator denominator : Nat} (divides : denominator ∣ numerator)
    (positive : 0 < denominator) : roundHalfEven numerator denominator = numerator / denominator := by
  simp [roundHalfEven, Nat.mod_eq_zero_of_dvd divides, positive.ne]

theorem ratioExponent_mono {smaller larger : Nat} (ascends : smaller ≤ larger) :
    ratioExponent smaller 1 ≤ ratioExponent larger 1 := by
  simp only [ratioExponent, Nat.div_one]
  split
  · exact Nat.zero_le _
  next large =>
    have logarithms : smaller.log2 ≤ larger.log2 :=
      (Nat.le_log2 (by omega)).mpr (Nat.le_trans (Nat.log2_self_le (by omega)) ascends)
    rw [if_neg (by omega)]
    exact Nat.sub_le_sub_right logarithms 52

/-- The significand before it is brought into canonical form. -/
def roundedSignificand (units : Nat) : Nat :=
  roundHalfEven units (2 ^ ratioExponent units 1)

theorem roundedSignificand_le (units : Nat) : roundedSignificand units ≤ 2 ^ 53 := by
  refine Nat.le_trans (roundHalfEven_le_div_add_one _ _) ?_
  have below : units / 2 ^ ratioExponent units 1 < 2 ^ 53 := by
    rw [Nat.div_lt_iff_lt_mul (Nat.two_pow_pos _), ← Nat.pow_add]
    simp only [ratioExponent, Nat.div_one]
    split
    · assumption
    · exact Nat.lt_of_lt_of_le Nat.lt_log2_self (Nat.pow_le_pow_right (by decide) (by omega))
  exact below

theorem le_roundedSignificand {units : Nat} (scaled : ratioExponent units 1 ≠ 0) :
    2 ^ 52 ≤ roundedSignificand units := by
  refine Nat.le_trans ?_ (div_le_roundHalfEven _ _)
  rw [Nat.le_div_iff_mul_le (Nat.two_pow_pos _), ← Nat.pow_add]
  simp only [ratioExponent, Nat.div_one] at scaled ⊢
  split at scaled
  · exact absurd rfl scaled
  next large =>
    have positive : units ≠ 0 := by omega
    have logarithm : 52 + (units.log2 - 52) = units.log2 := by omega
    rw [if_neg large, logarithm]
    exact Nat.log2_self_le positive

/-- The binary logarithm of the number of units that an infinity stands at. -/
def infinityBits : Nat := 2098

/-- The magnitude in units of the binary number nearest to a magnitude in units. -/
def nearestMagnitude (units : Nat) : Nat :=
  min (roundedSignificand units * 2 ^ ratioExponent units 1) (2 ^ infinityBits)

theorem nearestMagnitude_mono {smaller larger : Nat} (ascends : smaller ≤ larger) :
    nearestMagnitude smaller ≤ nearestMagnitude larger := by
  suffices roundedSignificand smaller * 2 ^ ratioExponent smaller 1 ≤
      roundedSignificand larger * 2 ^ ratioExponent larger 1 from
    Nat.le_min.mpr ⟨Nat.le_trans (Nat.min_le_left _ _) this, Nat.min_le_right _ _⟩
  rcases Nat.lt_or_eq_of_le (ratioExponent_mono ascends) with less | same
  · -- A power of two stands between the two magnitudes, and rounding does not pass it from either side.
    calc roundedSignificand smaller * 2 ^ ratioExponent smaller 1
        ≤ 2 ^ 53 * 2 ^ ratioExponent smaller 1 := Nat.mul_le_mul_right _ (roundedSignificand_le _)
      _ = 2 ^ 52 * 2 ^ (ratioExponent smaller 1 + 1) := by ring
      _ ≤ 2 ^ 52 * 2 ^ ratioExponent larger 1 :=
          Nat.mul_le_mul_left _ (Nat.pow_le_pow_right (by decide) less)
      _ ≤ roundedSignificand larger * 2 ^ ratioExponent larger 1 :=
          Nat.mul_le_mul_right _ (le_roundedSignificand (Nat.ne_of_gt (Nat.zero_lt_of_lt less)))
  · rw [roundedSignificand, roundedSignificand, same]
    exact Nat.mul_le_mul_right _ (roundHalfEven_mono _ ascends)

/-- A magnitude whose bits fit into a significand is not rounded. -/
theorem nearestMagnitude_mul_two_pow {significand exponent : Nat} (fits : significand < 2 ^ 53)
    (within : significand * 2 ^ exponent ≤ 2 ^ infinityBits) :
    nearestMagnitude (significand * 2 ^ exponent) = significand * 2 ^ exponent := by
  have counted : ratioExponent (significand * 2 ^ exponent) 1 ≤ exponent := by
    simp only [ratioExponent, Nat.div_one]
    split
    · exact Nat.zero_le _
    next large =>
      have bits : significand * 2 ^ exponent < 2 ^ (53 + exponent) := by
        rw [Nat.pow_add]
        exact Nat.mul_lt_mul_of_pos_right fits (Nat.two_pow_pos exponent)
      have logarithm := (Nat.log2_lt (by omega)).mpr bits
      omega
  have divides : 2 ^ ratioExponent (significand * 2 ^ exponent) 1 ∣ significand * 2 ^ exponent :=
    Nat.dvd_mul_left_of_dvd (Nat.pow_dvd_pow 2 counted) significand
  rw [nearestMagnitude, roundedSignificand, roundHalfEven_of_dvd divides (Nat.two_pow_pos _),
    Nat.div_mul_cancel divides, Nat.min_eq_left within]

theorem nearestMagnitude_two_pow {bits : Nat} (within : bits ≤ infinityBits) :
    nearestMagnitude (2 ^ bits) = 2 ^ bits := by
  have alone := @nearestMagnitude_mul_two_pow 1 bits (by decide)
  rw [Nat.one_mul] at alone
  exact alone (Nat.pow_le_pow_right (by decide) within)

theorem mul_two_pow_le_of_canonical {significand exponent : Nat}
    (canonical : Canonical significand exponent) : significand * 2 ^ exponent ≤ 2 ^ infinityBits :=
  calc significand * 2 ^ exponent
      ≤ 2 ^ 53 * 2 ^ exponent := Nat.mul_le_mul_right _ canonical.1.le
    _ = 2 ^ (53 + exponent) := (Nat.pow_add 2 53 exponent).symm
    _ ≤ 2 ^ infinityBits :=
        Nat.pow_le_pow_right (by decide) (Nat.add_le_add_left canonical.2.1 53)

/-- Significands that are full but have too large an exponent are beyond all finite numbers. -/
theorem le_mul_two_pow_of_not_canonical {significand exponent : Nat}
    (normal : exponent = 0 ∨ 2 ^ 52 ≤ significand) (below : significand < 2 ^ 53)
    (uncanonical : ¬ Canonical significand exponent) : 2 ^ infinityBits ≤ significand * 2 ^ exponent := by
  have beyond : 2046 ≤ exponent := by
    unfold Canonical at uncanonical
    omega
  have full : 2 ^ 52 ≤ significand := normal.resolve_left (by omega)
  calc 2 ^ infinityBits
      ≤ 2 ^ (52 + exponent) := Nat.pow_le_pow_right (by decide) (Nat.add_le_add_left beyond 52)
    _ = 2 ^ 52 * 2 ^ exponent := Nat.pow_add 2 52 exponent
    _ ≤ significand * 2 ^ exponent := Nat.mul_le_mul_right _ full

/-! ## Integers of units -/

/-- The integer of a magnitude and a sign. -/
def withSign (negative : Bool) (magnitude : Nat) : Int :=
  if negative then -(magnitude : Int) else magnitude

theorem withSign_mul_two_pow (negative : Bool) (significand exponent : Nat) :
    withSign negative (significand * 2 ^ exponent) =
      if negative then -((significand : Int) * 2 ^ exponent) else (significand : Int) * 2 ^ exponent := by
  simp [withSign]

theorem withSign_two_pow (negative : Bool) (bits : Nat) :
    withSign negative (2 ^ bits) = if negative then -(2 ^ bits) else 2 ^ bits := by
  simp [withSign]

/-- The integer of units of the binary number nearest to an integer of units. -/
def nearest (units : Int) : Int :=
  withSign (units < 0) (nearestMagnitude units.natAbs)

theorem withSign_natAbs (units : Int) : withSign (units < 0) units.natAbs = units := by
  unfold withSign
  by_cases below : units < 0
  · simp only [below, decide_true, ↓reduceIte]
    omega
  · simp only [below, decide_false, Bool.false_eq_true, ↓reduceIte]
    omega

theorem nearest_mono {smaller larger : Int} (ascends : smaller ≤ larger) :
    nearest smaller ≤ nearest larger := by
  unfold nearest withSign
  by_cases first : smaller < 0 <;> by_cases second : larger < 0
  · have magnitudes : nearestMagnitude larger.natAbs ≤ nearestMagnitude smaller.natAbs :=
      nearestMagnitude_mono (by omega)
    simp only [first, second, decide_true, ↓reduceIte]
    omega
  · simp only [first, second, decide_true, decide_false, ↓reduceIte, Bool.false_eq_true]
    omega
  · omega
  · have magnitudes : nearestMagnitude smaller.natAbs ≤ nearestMagnitude larger.natAbs :=
      nearestMagnitude_mono (by omega)
    simp only [first, second, decide_false, ↓reduceIte, Bool.false_eq_true]
    omega

theorem nearest_withSign (negative : Bool) {magnitude : Nat}
    (unrounded : nearestMagnitude magnitude = magnitude) :
    nearest (withSign negative magnitude) = withSign negative magnitude := by
  cases negative with
  | false =>
      have above : decide ((magnitude : Int) < 0) = false := decide_eq_false (by omega)
      simp only [nearest, withSign, Bool.false_eq_true, ↓reduceIte, above, Int.natAbs_natCast, unrounded]
  | true =>
      rcases Nat.eq_zero_or_pos magnitude with rfl | positive
      · simp [nearest, withSign, unrounded]
      · have below : decide (-(magnitude : Int) < 0) = true := decide_eq_true (by omega)
        simp only [nearest, withSign, ↓reduceIte, below, Int.natAbs_neg, Int.natAbs_natCast, unrounded]

/-! ## Binary numbers -/

theorem units?_finite (negative : Bool) {significand exponent : Nat}
    (canonical : Canonical significand exponent) :
    (finite negative significand exponent canonical).units? =
      some (withSign negative (significand * 2 ^ exponent)) := by
  rw [withSign_mul_two_pow]
  rfl

theorem units?_infinite (negative : Bool) :
    (infinite negative).units? = some (withSign negative (2 ^ infinityBits)) := by
  rw [withSign_two_pow]
  rfl

theorem units?_of_normal (negative : Bool) {significand exponent : Nat}
    (normal : exponent = 0 ∨ 2 ^ 52 ≤ significand) (below : significand < 2 ^ 53) :
    (if canonical : Canonical significand exponent then
        finite negative significand exponent canonical
      else infinite negative).units? =
      some (withSign negative (min (significand * 2 ^ exponent) (2 ^ infinityBits))) := by
  by_cases canonical : Canonical significand exponent
  · rw [dif_pos canonical, Nat.min_eq_left (mul_two_pow_le_of_canonical canonical), units?_finite]
  · rw [dif_neg canonical, Nat.min_eq_right (le_mul_two_pow_of_not_canonical normal below canonical),
      units?_infinite]

theorem units?_ofRatio_one (negative : Bool) (units : Nat) :
    (ofRatio negative units 1).units? = some (withSign negative (nearestMagnitude units)) := by
  have normal : ratioExponent units 1 = 0 ∨ 2 ^ 52 ≤ roundedSignificand units :=
    or_iff_not_imp_left.mpr le_roundedSignificand
  have counted : (if units < 2 ^ 53 then 0 else units.log2 - 52) = ratioExponent units 1 := by
    rw [ratioExponent, Nat.div_one]
  have rounded : roundHalfEven units (2 ^ ratioExponent units 1) = roundedSignificand units := rfl
  simp only [ofRatio, Nat.div_one, Nat.one_mul, counted, rounded]
  split
  next carry =>
    -- The significand is one power of two too large, so the next exponent has room for it.
    have magnitude : 2 ^ 52 * 2 ^ (ratioExponent units 1 + 1) =
        roundedSignificand units * 2 ^ ratioExponent units 1 := by
      rw [carry]
      ring
    rw [units?_of_normal negative (.inr (Nat.le_refl _)) (by decide), magnitude, nearestMagnitude]
  next apart =>
    have below := Nat.lt_of_le_of_ne (roundedSignificand_le units) apart
    rw [units?_of_normal negative normal below, nearestMagnitude]

theorem units?_ofInt (value : Int) :
    (ofInt value).units? = some (nearest (value * unitsPerOne)) := by
  have positive : (0 : Int) < unitsPerOne := Int.natCast_pos.mpr (Nat.two_pow_pos _)
  have sign : decide (value * unitsPerOne < 0) = decide (value < 0) :=
    decide_eq_decide.mpr ⟨fun below => Int.neg_of_mul_neg_left below positive,
      fun below => Int.mul_neg_of_neg_of_pos below positive⟩
  rw [ofInt, units?_ofRatio_one, nearest, sign, Int.natAbs_mul, Int.natAbs_natCast]

theorem nearest_units {value : Binary64} {units : Int} (found : value.units? = some units) :
    nearest units = units := by
  cases value with
  | nan => cases found
  | infinite negative =>
      obtain rfl := Option.some.inj ((units?_infinite negative).symm.trans found)
      exact nearest_withSign negative (nearestMagnitude_two_pow (Nat.le_refl _))
  | finite negative significand exponent canonical =>
      obtain rfl := Option.some.inj ((units?_finite negative canonical).symm.trans found)
      exact nearest_withSign negative
        (nearestMagnitude_mul_two_pow canonical.1 (mul_two_pow_le_of_canonical canonical))

/-- Whole numbers of at most fifty-three bits, and the next power of two, are not rounded. -/
theorem nearest_mul_unitsPerOne {value : Int} (small : value.natAbs ≤ 2 ^ 53) :
    nearest (value * unitsPerOne) = value * unitsPerOne := by
  have unrounded : nearestMagnitude (value.natAbs * 2 ^ unitBits) = value.natAbs * 2 ^ unitBits := by
    rcases Nat.lt_or_eq_of_le small with below | top
    · refine nearestMagnitude_mul_two_pow below (Nat.le_trans (Nat.mul_le_mul_right _ small) ?_)
      rw [← Nat.pow_add]
      exact Nat.pow_le_pow_right (by decide) (by decide)
    · rw [top, ← Nat.pow_add]
      exact nearestMagnitude_two_pow (by decide)
  have magnitude : (value * unitsPerOne).natAbs = value.natAbs * 2 ^ unitBits := by
    rw [Int.natAbs_mul, Int.natAbs_natCast, unitsPerOne]
  rw [nearest, magnitude, unrounded, ← magnitude, withSign_natAbs]

end PipeQuery.Binary64
