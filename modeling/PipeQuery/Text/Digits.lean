import PipeQuery.Power

/-!
# Digits

Natural numbers and integers as texts in a positional base. Reading accepts leading zeros and letters
of either case; writing is decimal and has none.
-/

set_option autoImplicit false

namespace PipeQuery.Text

/-- The value of a digit in the given base, which is at most thirty-six. -/
def digitValue? (base : Nat) (c : Char) : Option Nat :=
  let value? :=
    if '0' ≤ c ∧ c ≤ '9' then some (c.toNat - '0'.toNat)
    else if 'a' ≤ c ∧ c ≤ 'z' then some (c.toNat - 'a'.toNat + 10)
    else if 'A' ≤ c ∧ c ≤ 'Z' then some (c.toNat - 'A'.toNat + 10)
    else none
  value?.filter (fun value => value < base)

def isDigit (c : Char) : Bool :=
  '0' ≤ c && c ≤ '9'

def readNat? (base : Nat) (text : List Char) : Option Nat :=
  if text.isEmpty then none
  else text.foldlM (fun value c => (digitValue? base c).map (value * base + ·)) 0

/-- The value of decimal digits, where any other character counts as zero. Meant for texts that are
known to consist of digits. -/
def natOfDigits (digits : List Char) : Nat :=
  digits.foldl (fun value c => value * 10 + (c.toNat - '0'.toNat)) 0

/-- Separates a leading sign and says whether it is a minus. -/
def takeSign : List Char → Bool × List Char
  | '+' :: rest => (false, rest)
  | '-' :: rest => (true, rest)
  | text => (false, text)

def readInt? (text : List Char) : Option Int :=
  let (negative, digits) := takeSign text
  (readNat? 10 digits).map (fun magnitude => if negative then -(magnitude : Int) else magnitude)

def natDigits (value : Nat) : List Char :=
  Nat.toDigits 10 value

def paddedDigits (width value : Nat) : List Char :=
  let digits := natDigits value
  List.replicate (width - digits.length) '0' ++ digits

def intDigits (value : Int) : List Char :=
  if value < 0 then '-' :: natDigits value.natAbs else natDigits value.natAbs

end PipeQuery.Text
