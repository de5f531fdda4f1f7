import PipeQuery.Number.Basic
import PipeQuery.Record.Timestamp

/-!
# Field values

What a record has under a field name. A field that is missing, null or not a scalar is missing.
-/

set_option autoImplicit false

namespace PipeQuery

inductive FieldValue where
  | text (value : String)
  | number (value : Number)
  | timestamp (value : Timestamp)
  | bool (value : Bool)
  | missing
deriving DecidableEq

namespace FieldValue

def isMissing : FieldValue → Bool
  | .missing => true
  | _ => false

def kindName : FieldValue → String
  | .text _ => "string"
  | .number _ => "number"
  | .timestamp _ => "timestamp"
  | .bool _ => "bool"
  | .missing => "none"

def text? : FieldValue → Option String
  | .text value => some value
  | _ => none

def number? : FieldValue → Option Number
  | .number value => some value
  | _ => none

def timestamp? : FieldValue → Option Timestamp
  | .timestamp value => some value
  | _ => none

def bool? : FieldValue → Option Bool
  | .bool value => some value
  | _ => none

/-- Equality of kind and value, where floats are equal as numbers. -/
def same : FieldValue → FieldValue → Bool
  | .text left, .text right => left == right
  | .number left, .number right => left.same right
  | .timestamp left, .timestamp right => left == right
  | .bool left, .bool right => left == right
  | .missing, .missing => true
  | _, _ => false

/-- The order of two values of one kind; values of different kinds have none. A missing value comes
after every other and beside another missing one. -/
def compare? : FieldValue → FieldValue → Option Ordering
  | .text left, .text right => some (compare left right)
  | .number left, .number right => left.compare? right
  | .timestamp left, .timestamp right => some (left.compare right)
  | .bool left, .bool right => some (compare left right)
  | .missing, .missing => some .eq
  | .missing, _ => some .gt
  | _, .missing => some .lt
  | _, _ => none

end FieldValue

end PipeQuery
