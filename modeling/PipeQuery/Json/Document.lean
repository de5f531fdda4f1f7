import PipeQuery.Number.Basic
import PipeQuery.Table

/-!
# JSON documents

Integers of up to 64 bits are kept apart from other numbers, as a document writes them.
-/

set_option autoImplicit false

namespace PipeQuery

/-- An integer that fits 64 bits, signed or unsigned. -/
def IsWideInt (value : Int) : Prop :=
  -(2 ^ 63) ≤ value ∧ value < 2 ^ 64

instance (value : Int) : Decidable (IsWideInt value) :=
  inferInstanceAs (Decidable (_ ∧ _))

inductive Json where
  | null
  | bool (value : Bool)
  /-- A number written without a point and an exponent that fits 64 bits. -/
  | integer (value : Int) (isWide : IsWideInt value)
  | fraction (value : Binary64)
  | string (value : String)
  | array (items : List Json)
  | object (members : List (String × Json))

namespace Json

instance : Inhabited Json := ⟨.null⟩

/-- A natural number as a document. What needs more than 64 bits becomes a fraction. -/
def ofInt (value : Int) : Json :=
  if isWide : IsWideInt value then .integer value isWide else .fraction (.ofInt value)

def ofNumber : Number → Json
  | .signed value => ofInt value.toInt
  | .unsigned value => ofInt value.toNat
  | .float value => .fraction value

def number? : Json → Option Number
  | .integer value _ => Number.ofInt? value
  | .fraction value => some (.float value)
  | _ => none

def member? (name : String) : Json → Option Json
  | .object members => Table.find? members name
  | _ => none

end Json

end PipeQuery
