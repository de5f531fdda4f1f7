import PipeQuery.Binary64.Basic
import PipeQuery.Text.Digits

/-!
# Decimal numbers and their nearest binary numbers

A decimal is a natural number of digits scaled by a power of ten. Reading a decimal text gives the
binary number nearest to its exact value, however many digits it has.
-/

set_option autoImplicit false

namespace PipeQuery

/-- The magnitude `digits * 10 ^ exponent`. -/
structure Decimal where
  digits : Nat
  exponent : Int
deriving DecidableEq, Repr

namespace Decimal

/-- The decimal written by digits with an optional point and an optional exponent. At least one digit
stands before the exponent, on either side of the point, and nothing follows. -/
def ofText? (text : List Char) : Option Decimal :=
  let whole := text.takeWhile Text.isDigit
  let (fraction, rest) :=
    match text.dropWhile Text.isDigit with
    | '.' :: rest => (rest.takeWhile Text.isDigit, rest.dropWhile Text.isDigit)
    | rest => ([], rest)
  if whole.isEmpty && fraction.isEmpty then none
  else
    let digits := Text.natOfDigits (whole ++ fraction)
    match rest with
    | [] => some ⟨digits, -(fraction.length : Int)⟩
    | c :: scale =>
      if c == 'e' || c == 'E' then
        (Text.readInt? scale).map (fun exponent => ⟨digits, exponent - fraction.length⟩)
      else none

end Decimal

namespace Binary64

/-- The binary number nearest to a decimal magnitude with a sign. Powers of ten far outside the range
are not computed: beyond `10 ^ 400` every magnitude is infinite and below `10 ^ -400` it is zero. -/
def ofDecimal (negative : Bool) (decimal : Decimal) : Binary64 :=
  if decimal.digits = 0 then zero negative
  else if decimal.exponent > 400 then .infinite negative
  else if decimal.exponent + decimal.digits.log2 + 1 < -400 then zero negative
  else if decimal.exponent ≥ 0 then
    ofRatio negative (decimal.digits * 10 ^ decimal.exponent.toNat * unitsPerOne) 1
  else ofRatio negative (decimal.digits * unitsPerOne) (10 ^ (-decimal.exponent).toNat)

/-- The number that a text denotes: a decimal after an optional sign, or a word for an infinity or for
the value that is not a number, in letters of either case. -/
def ofText? (text : List Char) : Option Binary64 :=
  let (negative, body) := Text.takeSign text
  match Decimal.ofText? body with
  | some decimal => some (ofDecimal negative decimal)
  | none =>
    let word := String.ofList (body.map Char.toLower)
    if word = "nan" then some .nan
    else if word = "inf" ∨ word = "infinity" then some (.infinite negative)
    else none

end Binary64

end PipeQuery
