import PipeQuery.Binary64.Shortest

/-!
# Decimal texts of binary numbers

A number is written with the digits of its shortest decimal, either with a point among them or with an
exponent. Where one notation ends and the other begins is a matter of the layout.
-/

set_option autoImplicit false

namespace PipeQuery

structure NumberLayout where
  tie : Tie
  /-- The least decimal exponent of a number written with a point. -/
  leastPositional : Int
  /-- The first decimal exponent, going up, of a number written with an exponent. -/
  firstScientific : Int
  plusSign : Bool

/-- Display: positional from `0.0001` up to below `10 ^ 16`, and a tie goes up. -/
def NumberLayout.display : NumberLayout := ⟨.up, -4, 16, false⟩

/-- JSON text: positional from `0.00001` up to below `10 ^ 16`, a tie goes to the even digit, and a
positive exponent has a plus. -/
def NumberLayout.json : NumberLayout := ⟨.toEven, -5, 16, true⟩

namespace Decimal

def positionalText (decimal : Decimal) : List Char :=
  let digits := Text.natDigits decimal.digits
  if decimal.exponent ≥ 0 then
    digits ++ List.replicate decimal.exponent.toNat '0' ++ ['.', '0']
  else
    let places := (-decimal.exponent).toNat
    if places < digits.length then
      digits.take (digits.length - places) ++ '.' :: digits.drop (digits.length - places)
    else '0' :: '.' :: List.replicate (places - digits.length) '0' ++ digits

def scientificText (plusSign : Bool) (decimal : Decimal) : List Char :=
  let digits := Text.natDigits decimal.digits
  let scale := decimal.exponent + digits.length - 1
  let tail := digits.drop 1
  digits.take 1 ++ (if tail.isEmpty then [] else '.' :: tail) ++ ['e']
    ++ (if plusSign && scale ≥ 0 then ['+'] else []) ++ Text.intDigits scale

def text (layout : NumberLayout) (decimal : Decimal) : List Char :=
  let scale := decimal.exponent + (Text.natDigits decimal.digits).length - 1
  if decimal.digits = 0 ∨ (layout.leastPositional ≤ scale ∧ scale < layout.firstScientific) then
    decimal.positionalText
  else decimal.scientificText layout.plusSign

end Decimal

def Binary64.text (layout : NumberLayout) : Binary64 → List Char
  | .nan => "NaN".toList
  | .infinite negative => if negative then "-inf".toList else "inf".toList
  | .finite negative significand exponent canonical =>
    let magnitude := (Decimal.shortest layout.tie significand exponent canonical).text layout
    if negative then '-' :: magnitude else magnitude

end PipeQuery
