import PipeQuery.ReadError

/-!
# Errors of chains

Why a pipe expression did not run to its end.
-/

set_option autoImplicit false

namespace PipeQuery

inductive ChainError (ε : Type) where
  | unreadable (error : ReadError)
  | reserved (name : String)
  | unknown (name : String)
  /-- The member gave something else back than the target. -/
  | broken (name : String)
  | failed (name : String) (cause : ε)
deriving DecidableEq, Repr

namespace ChainError

variable {ε : Type}

def member? : ChainError ε → Option String
  | .unreadable _ => none
  | .reserved name => some name
  | .unknown name => some name
  | .broken name => some name
  | .failed name _ => some name

def message? (describe : ε → Option String) : ChainError ε → Option String
  | .unreadable error => some error.message
  | .reserved name =>
    some ("method '" ++ name ++ "' is reserved and cannot be called from a pipe expression")
  | .unknown name => some ("unknown method '" ++ name ++ "'")
  | .broken name => some ("method '" ++ name ++ "' must return the chain object")
  | .failed name cause =>
    (describe cause).map (fun text => "method '" ++ name ++ "' failed: " ++ text)

end ChainError

end PipeQuery
