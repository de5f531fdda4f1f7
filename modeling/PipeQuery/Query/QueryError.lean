import PipeQuery.Query.Operator

/-!
# Query errors

Why a clause, a sort key or the arguments of a query member are not accepted.
-/

set_option autoImplicit false

namespace PipeQuery

structure Arity where
  least : Nat
  most : Nat := least
deriving DecidableEq, Repr

/-- The wording of an arity, which spans at most two numbers. -/
def Arity.wording (arity : Arity) : String :=
  if arity.least = arity.most then toString arity.least
  else toString arity.least ++ " or " ++ toString arity.most

def Arity.accepts (arity : Arity) (count : Nat) : Bool :=
  arity.least ≤ count && count ≤ arity.most

inductive ArgumentRole where
  | text
  | count
deriving DecidableEq, Repr

def ArgumentRole.wording : ArgumentRole → String
  | .text => "text"
  | .count => "a non-negative whole number"

inductive QueryError where
  /-- A pattern is not a regular expression, or is too large a one. -/
  | invalidPattern (source : String)
  | unknownOperator (word : String)
  | unknownDirection (word : String)
  | unsupportedOperand (operator : Operator) (kind : ArgumentKind)
  | argumentCount (member : String) (expected : Arity) (got : Nat)
  /-- The argument at a position, counted from one, is not what it has to be. -/
  | argumentRole (member : String) (position : Nat) (expected : ArgumentRole) (got : ArgumentKind)
deriving DecidableEq, Repr

/-- The wording of an error. What is wrong with a pattern is not put into words. -/
def QueryError.message? : QueryError → Option String
  | .invalidPattern _ => none
  | .unknownOperator word => some ("unknown operator '" ++ word ++ "'")
  | .unknownDirection word => some ("unknown sort direction '" ++ word ++ "'")
  | .unsupportedOperand operator kind =>
    some ("operator '" ++ operator.name ++ "' does not accept a " ++ kind.name ++ " value")
  | .argumentCount member expected got =>
    some (member ++ "() takes " ++ expected.wording ++ " argument(s), got " ++ toString got)
  | .argumentRole member position expected got =>
    some (member ++ "() argument " ++ toString position ++ " must be " ++ expected.wording
      ++ ", got " ++ got.name)

def Operator.ofWord (word : String) : Except QueryError Operator :=
  match Operator.ofWord? word with
  | some operator => .ok operator
  | none => .error (.unknownOperator word)

def Direction.ofWord (word : String) : Except QueryError Direction :=
  match Direction.ofWord? word with
  | some direction => .ok direction
  | none => .error (.unknownDirection word)

end PipeQuery
