import PipeQuery.Binary64.Printer

/-!
# Numbers

Integers stay integers while they fit 64 bits, signed if they can be, and everything else is a 64-bit
binary number. Two numbers of one kind are compared exactly. Across kinds both are first rounded to a
binary number, so large integers may compare as equal to a different neighbour.
-/

set_option autoImplicit false

namespace PipeQuery

inductive Number where
  | signed (value : Int64)
  /-- An unsigned integer of 64 bits. Readers use it only where a signed one is too narrow. -/
  | unsigned (value : UInt64)
  | float (value : Binary64)
deriving DecidableEq

namespace Number

/-- The integer as a number, signed if it fits and unsigned if only that fits. -/
def ofInt? (value : Int) : Option Number :=
  if -(2 ^ 63) ≤ value ∧ value < 2 ^ 63 then some (.signed (Int64.ofInt value))
  else if 2 ^ 63 ≤ value ∧ value < 2 ^ 64 then some (.unsigned (UInt64.ofNat value.toNat))
  else none

def ofUInt64 (value : UInt64) : Number :=
  if value.toNat < 2 ^ 63 then .signed (Int64.ofNat value.toNat) else .unsigned value

def toBinary64 : Number → Binary64
  | .signed value => .ofInt value.toInt
  | .unsigned value => .ofInt value.toNat
  | .float value => value

/-- The value as an unsigned integer of 64 bits, if it is a whole number that is not negative. The
float `2 ^ 64` is let in and stands for the largest such integer. -/
def toUInt64? : Number → Option UInt64
  | .signed value => if 0 ≤ value.toInt then some (UInt64.ofNat value.toInt.toNat) else none
  | .unsigned value => some value
  | .float value =>
    match value.toNat? with
    | none => none
    | some whole =>
      if whole < 2 ^ 64 then some (UInt64.ofNat whole)
      else if whole = 2 ^ 64 then some (UInt64.ofNat (2 ^ 64 - 1))
      else none

/-- The order of two numbers, through binary numbers where the kinds differ. -/
def compare? : Number → Number → Option Ordering
  | .signed left, .signed right => some (compare left.toInt right.toInt)
  | .unsigned left, .unsigned right => some (compare left.toNat right.toNat)
  | .float left, .float right => left.compare? right
  | left, right => left.toBinary64.compare? right.toBinary64

def same : Number → Number → Bool
  | .signed left, .signed right => left == right
  | .unsigned left, .unsigned right => left == right
  | .float left, .float right => left.sameNumber right
  | _, _ => false

/-- The display text. A float always shows a point, an exponent or a word. -/
def text : Number → List Char
  | .signed value => Text.intDigits value.toInt
  | .unsigned value => Text.natDigits value.toNat
  | .float value => value.text .display

end Number

end PipeQuery
