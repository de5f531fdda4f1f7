import PipeQuery.Argument.Basic
import PipeQuery.Text.Blank

/-!
# Operators and directions

The words and signs of comparisons and of sorting, and what they mean for the outcome of a comparison.
-/

set_option autoImplicit false

namespace PipeQuery

inductive Operator where
  | eq
  | ne
  | startsWith
  | endsWith
  | contains
  | regex
  | gt
  | gte
  | lt
  | lte
  | before
  | after
  | isIn
  | is
deriving DecidableEq, Repr

def foldedWord (word : String) : String :=
  String.ofList ((Text.trim word.toList).map Char.toLower)

namespace Operator

def name : Operator → String
  | .eq => "eq"
  | .ne => "ne"
  | .startsWith => "startswith"
  | .endsWith => "endswith"
  | .contains => "contains"
  | .regex => "regex"
  | .gt => "gt"
  | .gte => "gte"
  | .lt => "lt"
  | .lte => "lte"
  | .before => "before"
  | .after => "after"
  | .isIn => "in"
  | .is => "is"

def spellings : List (String × Operator) :=
  [("eq", .eq), ("=", .eq), ("==", .eq), ("ne", .ne), ("!=", .ne), ("<>", .ne),
   ("startswith", .startsWith), ("starts_with", .startsWith), ("endswith", .endsWith),
   ("ends_with", .endsWith), ("contains", .contains), ("regex", .regex), ("matches", .regex),
   ("~", .regex), ("gt", .gt), (">", .gt), ("gte", .gte), (">=", .gte), ("lt", .lt), ("<", .lt),
   ("lte", .lte), ("<=", .lte), ("before", .before), ("after", .after), ("in", .isIn), ("is", .is)]

def ofWord? (word : String) : Option Operator :=
  spellings.lookup (foldedWord word)

/-- The operator without its alias: earlier is less, later is greater, and being is equality. -/
def normalize : Operator → Operator
  | .before => .lt
  | .after => .gt
  | .is => .eq
  | operator => operator

def isOrdering (operator : Operator) : Bool :=
  match operator.normalize with
  | .eq | .ne | .gt | .gte | .lt | .lte => true
  | _ => false

def isText : Operator → Bool
  | .startsWith | .endsWith | .contains | .regex => true
  | _ => false

/-- Whether the operator holds when the field compares to the operand as given. -/
def holds (operator : Operator) (outcome : Ordering) : Bool :=
  match operator.normalize with
  | .eq => outcome == .eq
  | .ne => outcome != .eq
  | .gt => outcome == .gt
  | .gte => outcome != .lt
  | .lt => outcome == .lt
  | .lte => outcome != .gt
  | _ => false

end Operator

inductive Direction where
  | ascending
  | descending
deriving DecidableEq, Repr

namespace Direction

instance : Inhabited Direction := ⟨.ascending⟩

def name : Direction → String
  | .ascending => "asc"
  | .descending => "desc"

def ofWord? (word : String) : Option Direction :=
  [("asc", ascending), ("ascending", ascending), ("desc", descending),
    ("descending", descending)].lookup (foldedWord word)

def apply (direction : Direction) (outcome : Ordering) : Ordering :=
  match direction with
  | .ascending => outcome
  | .descending => outcome.swap

end Direction

end PipeQuery
