import PipeQuery.Number.Basic

/-!
# Number literals

A token is a number if it is a decimal integer of 64 bits, an integer in base sixteen, eight or two
after its mark, or a text that denotes a finite binary number. A mark settles the matter: what follows
it is an integer in that base or the token is no number at all.
-/

set_option autoImplicit false

namespace PipeQuery.Number

/-- The base that a mark announces and the text after the mark. -/
def radixMark? : List Char → Option (Nat × List Char)
  | '0' :: 'x' :: digits => some (16, digits)
  | '0' :: 'X' :: digits => some (16, digits)
  | '0' :: 'o' :: digits => some (8, digits)
  | '0' :: 'O' :: digits => some (8, digits)
  | '0' :: 'b' :: digits => some (2, digits)
  | '0' :: 'B' :: digits => some (2, digits)
  | _ => none

/-- A decimal integer that fits. A minus is allowed on what fits a signed integer only. -/
def ofDecimalInteger? (token : List Char) : Option Number :=
  (Text.readInt? token).bind ofInt?

def ofFloat? (token : List Char) : Option Number :=
  (Binary64.ofText? token).bind (fun value => if value.isFinite then some (.float value) else none)

def ofToken? (token : List Char) : Option Number :=
  match ofDecimalInteger? token with
  | some number => some number
  | none =>
    match radixMark? token with
    | some (base, digits) => (Text.readNat? base digits).bind (fun value => ofInt? value)
    | none => ofFloat? token

end PipeQuery.Number
