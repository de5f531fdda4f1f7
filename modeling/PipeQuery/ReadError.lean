/-!
# Reading errors

Why a text cannot be read as an expression. An error carries the offending text as it was written.
-/

set_option autoImplicit false

namespace PipeQuery

inductive ReadError where
  | malformedStep (step : String)
  | entryWithoutColon (entry : String)
  | tooLong (bytes limit : Nat)
  | tooManySteps (steps limit : Nat)
deriving DecidableEq, Repr

def ReadError.message : ReadError → String
  | .malformedStep step =>
    "invalid pipe step '" ++ step ++ "': expected `name(args)` or a bare method name"
  | .entryWithoutColon entry => "invalid object entry '" ++ entry ++ "': expected `key: value`"
  | .tooLong bytes limit =>
    "pipe expression is " ++ toString bytes ++ " bytes long, limit is " ++ toString limit
  | .tooManySteps steps limit =>
    "pipe expression has " ++ toString steps ++ " steps, limit is " ++ toString limit

end PipeQuery
