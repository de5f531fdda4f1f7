import PipeQuery.Calendar.Literal
import PipeQuery.Number.Literal
import PipeQuery.Table

/-!
# Arguments

The values that the arguments of a call can have. Each kind has a form of its own in the text of an
expression; a bare word is whatever has no other form.
-/

set_option autoImplicit false

namespace PipeQuery

inductive Argument where
  | bool (value : Bool)
  | number (value : Number)
  /-- The content of a quoted string, with its escapes as written. -/
  | str (content : String)
  | instant (value : Instant)
  | list (items : List Argument)
  | map (entries : List (String × Argument))
  | bare (word : String)

inductive ArgumentKind where
  | bool
  | number
  | str
  | instant
  | list
  | map
  | bare
deriving DecidableEq, Repr

def ArgumentKind.name : ArgumentKind → String
  | .bool => "bool"
  | .number => "number"
  | .str => "string"
  | .instant => "timestamp"
  | .list => "list"
  | .map => "map"
  | .bare => "bare word"

namespace Argument

instance : Inhabited Argument := ⟨.bare ""⟩

def kind : Argument → ArgumentKind
  | .bool _ => .bool
  | .number _ => .number
  | .str _ => .str
  | .instant _ => .instant
  | .list _ => .list
  | .map _ => .map
  | .bare _ => .bare

def bool? : Argument → Option Bool
  | .bool value => some value
  | _ => none

def number? : Argument → Option Number
  | .number value => some value
  | _ => none

/-- The text of a quoted string or a bare word. Members read both alike. -/
def text? : Argument → Option String
  | .str content => some content
  | .bare word => some word
  | _ => none

def instant? : Argument → Option Instant
  | .instant value => some value
  | _ => none

def items? : Argument → Option (List Argument)
  | .list items => some items
  | _ => none

def entries? : Argument → Option (List (String × Argument))
  | .map entries => some entries
  | _ => none

mutual

/-- Equality of kind and value, where floats are equal as numbers: the zeros are equal, and the value
that is not a number equals nothing. -/
def same : Argument → Argument → Bool
  | .bool left, .bool right => left == right
  | .number left, .number right => left.same right
  | .str left, .str right => left == right
  | .instant left, .instant right => left == right
  | .list left, .list right => sameItems left right
  | .map left, .map right => sameEntries left right
  | .bare left, .bare right => left == right
  | _, _ => false

def sameItems : List Argument → List Argument → Bool
  | [], [] => true
  | left :: lefts, right :: rights => same left right && sameItems lefts rights
  | _, _ => false

def sameEntries : List (String × Argument) → List (String × Argument) → Bool
  | [], [] => true
  | (key, left) :: lefts, (other, right) :: rights =>
    key == other && same left right && sameEntries lefts rights
  | _, _ => false

end

end Argument

end PipeQuery
