import PipeQuery.Power

/-!
# Binary numbers of 64 bits

Floating-point numbers as exact values. A finite number is a whole multiple of `2 ^ -1074`, the unit,
so its magnitude in units is a natural number and its order is the order of integers. Two zeros of
different sign are different numbers of equal order.
-/

set_option autoImplicit false

namespace PipeQuery

/-- The significand has at most fifty-three bits, and all of them unless the exponent is least. -/
def Binary64.Canonical (significand exponent : Nat) : Prop :=
  significand < 2 ^ 53 ∧ exponent ≤ 2045 ∧ (exponent = 0 ∨ 2 ^ 52 ≤ significand)

instance (significand exponent : Nat) : Decidable (Binary64.Canonical significand exponent) :=
  inferInstanceAs (Decidable (_ ∧ _ ∧ _))

/-- A 64-bit binary floating-point number. The magnitude of a finite one is
`significand * 2 ^ exponent` units. -/
inductive Binary64 where
  | nan
  | infinite (negative : Bool)
  | finite (negative : Bool) (significand exponent : Nat)
      (canonical : Binary64.Canonical significand exponent)
deriving DecidableEq

namespace Binary64

def unitBits : Nat := 1074

def unitsPerOne : Nat := 2 ^ unitBits

def zero (negative : Bool) : Binary64 :=
  .finite negative 0 0 (by decide)

instance : Inhabited Binary64 := ⟨zero false⟩

def roundHalfEven (numerator denominator : Nat) : Nat :=
  let quotient := numerator / denominator
  let twice := 2 * (numerator % denominator)
  if twice > denominator ∨ (twice = denominator ∧ quotient % 2 = 1) then quotient + 1 else quotient

/-- The number nearest to a magnitude of `numerator / denominator` units, ties going to the even
significand and too large magnitudes to infinity. -/
def ofRatio (negative : Bool) (numerator denominator : Nat) : Binary64 :=
  let quotient := numerator / denominator
  let exponent := if quotient < 2 ^ 53 then 0 else quotient.log2 - 52
  let rounded := roundHalfEven numerator (denominator * 2 ^ exponent)
  let (significand, exponent) :=
    if rounded = 2 ^ 53 then (2 ^ 52, exponent + 1) else (rounded, exponent)
  if canonical : Canonical significand exponent then .finite negative significand exponent canonical
  else .infinite negative

def ofInt (value : Int) : Binary64 :=
  ofRatio (value < 0) (value.natAbs * unitsPerOne) 1

def isFinite : Binary64 → Bool
  | .finite .. => true
  | _ => false

/-- The signed number of units, where an infinity stands beyond all finite numbers. -/
def units? : Binary64 → Option Int
  | .nan => none
  | .infinite negative => some (if negative then -(2 ^ 2098) else 2 ^ 2098)
  | .finite negative significand exponent _ =>
    let magnitude : Int := significand * 2 ^ exponent
    some (if negative then -magnitude else magnitude)

/-- The order of two numbers. The value that is not a number has no order, not even with itself. -/
def compare? (left right : Binary64) : Option Ordering := do
  return compare (← left.units?) (← right.units?)

def sameNumber (left right : Binary64) : Bool :=
  left.compare? right == some .eq

def toNat? : Binary64 → Option Nat
  | .finite negative significand exponent _ =>
    let magnitude := significand * 2 ^ exponent
    if magnitude % unitsPerOne = 0 ∧ (negative = false ∨ magnitude = 0)
    then some (magnitude / unitsPerOne) else none
  | _ => none

end Binary64

end PipeQuery
