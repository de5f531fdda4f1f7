import PipeQuery.Binary64.Decimal

/-!
# Shortest decimals

The shortest decimal of a binary number has the fewest digits among those that read back as it, and is
the nearest of these. Candidates are tested with the reader itself, so what is chosen reads back.
-/

set_option autoImplicit false

namespace PipeQuery

/-- Which of two decimals to take when the number lies exactly between them. -/
inductive Tie where
  | up
  | toEven
deriving DecidableEq, Repr

namespace Decimal

def stripZeros (decimal : Decimal) : Decimal :=
  if decimal.digits ≠ 0 ∧ decimal.digits % 10 = 0 then
    stripZeros ⟨decimal.digits / 10, decimal.exponent + 1⟩
  else decimal
termination_by decimal.digits
decreasing_by omega

/-- The exact decimal of a number of units: its digits times five to the number of unit bits. -/
def ofUnits (units : Nat) : Decimal :=
  ⟨units * 5 ^ Binary64.unitBits, -(Binary64.unitBits : Int)⟩

def unitsOver (units : Nat) (exponent : Int) : Nat × Nat :=
  if exponent ≥ 0 then (units, Binary64.unitsPerOne * 10 ^ exponent.toNat)
  else (units * 10 ^ (-exponent).toNat, Binary64.unitsPerOne)

/-- The least power of ten above a positive number of units. A first guess from the binary logarithm is
at most two too small. -/
def leastPowerAbove (units : Nat) : Int :=
  let guess := ((units.log2 : Int) - Binary64.unitBits) * 30103 / 100000 - 1
  let isAbove (power : Int) : Bool :=
    let (numerator, denominator) := unitsOver units power
    numerator < denominator
  if isAbove guess then guess
  else if isAbove (guess + 1) then guess + 1
  else if isAbove (guess + 2) then guess + 2
  else guess + 3

/-- Of the two multiples of a power of ten around the number, the nearer one that reads back. -/
def atScale? (tie : Tie) (number : Binary64) (units : Nat) (exponent : Int) : Option Decimal :=
  let (numerator, denominator) := unitsOver units exponent
  let lower := numerator / denominator
  let twice := 2 * (numerator % denominator)
  let preferUpper :=
    denominator < twice
      || (twice == denominator && (tie == .up || lower % 2 == 1))
  let candidates := if preferUpper then [lower + 1, lower] else [lower, lower + 1]
  (candidates.map (fun digits => Decimal.mk digits exponent)).find?
    (fun decimal => Binary64.ofDecimal false decimal == number)

def shortest (tie : Tie) (significand exponent : Nat)
    (canonical : Binary64.Canonical significand exponent) : Decimal :=
  if significand = 0 then ⟨0, 0⟩
  else
    let units := significand * 2 ^ exponent
    let number := Binary64.finite false significand exponent canonical
    let above := leastPowerAbove units
    let scales := (List.range 17).map (fun more : Nat => above - 1 - (more : Int))
    stripZeros ((scales.findSome? (atScale? tie number units)).getD (ofUnits units))

end Decimal

end PipeQuery
