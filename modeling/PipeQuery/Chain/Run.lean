import PipeQuery.Chain.ChainError
import PipeQuery.Chain.Member
import PipeQuery.Pipeline.Reader

/-!
# Running calls

Calls run on a target in order, up to the first one that does not apply. What ran before it stays done.
-/

set_option autoImplicit false

namespace PipeQuery

/-- The operations of every target, whose names no expression can call. -/
def reservedNames : List String := ["filter", "sort", "pipe", "count", "items"]

def isReserved (name : String) : Bool :=
  reservedNames.contains name

inductive Outcome (ε : Type) where
  | applied
  | reserved
  | unresolved
  | broken
  | failed (cause : ε)
deriving DecidableEq, Repr

namespace Outcome

variable {ε : Type}

def isApplied : Outcome ε → Bool
  | .applied => true
  | _ => false

def ofReply : Reply ε → Outcome ε
  | .target => .applied
  | .stranger => .broken
  | .failure cause => .failed cause

def error? (name : String) : Outcome ε → Option (ChainError ε)
  | .applied => none
  | .reserved => some (.reserved name)
  | .unresolved => some (.unknown name)
  | .broken => some (.broken name)
  | .failed cause => some (.failed name cause)

end Outcome

namespace Chain

variable {σ ε : Type} [Chainable σ ε]

def apply (target : σ) (call : Call) : σ × Outcome ε :=
  if isReserved call.name then (target, .reserved)
  else
    match Chainable.resolve target call.name with
    | none => (target, .unresolved)
    | some member =>
      let (after, reply) := member target call.args
      (after, .ofReply reply)

/-- Runs calls in order, up to the first one that does not apply. -/
def execute (target : σ) : List Call → σ × Except (ChainError ε) Unit
  | [] => (target, .ok ())
  | call :: calls =>
    let (after, outcome) := apply target call
    match outcome.error? call.name with
    | some error => (after, .error error)
    | none => execute after calls

def runWithin (limits : Limits) (target : σ) (expression : String) :
    σ × Except (ChainError ε) Unit :=
  match parsePipelineWithin limits expression with
  | .error error => (target, .error (.unreadable error))
  | .ok calls => execute target calls

def run (target : σ) (expression : String) : σ × Except (ChainError ε) Unit :=
  runWithin .unlimited target expression

end Chain

end PipeQuery
