import PipeQuery.ReadError

/-!
# Limits

Bounds on expressions from sources that are not trusted. Nothing is bounded unless asked for.
-/

set_option autoImplicit false

namespace PipeQuery

structure Limits where
  maxBytes : Option Nat := none
  /-- The greatest number of steps that are not blank. -/
  maxSteps : Option Nat := none
deriving DecidableEq, Repr

namespace Limits

instance : Inhabited Limits := ⟨{}⟩

def unlimited : Limits := {}

def checkLength (limits : Limits) (expression : String) : Except ReadError Unit :=
  match limits.maxBytes with
  | some limit =>
    if expression.utf8ByteSize > limit then .error (.tooLong expression.utf8ByteSize limit) else .ok ()
  | none => .ok ()

def checkSteps (limits : Limits) (steps : Nat) : Except ReadError Unit :=
  match limits.maxSteps with
  | some limit => if steps > limit then .error (.tooManySteps steps limit) else .ok ()
  | none => .ok ()

end Limits

end PipeQuery
