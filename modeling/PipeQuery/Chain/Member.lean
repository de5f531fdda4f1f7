import PipeQuery.Argument.Basic

/-!
# Members

A member is what a call by name runs: it takes the state of a target to a new one. All that is known of a
target is which members it has at present.
-/

set_option autoImplicit false

namespace PipeQuery

inductive Reply (ε : Type) where
  | target
  /-- It gives something else back. -/
  | stranger
  | failure (cause : ε)
deriving DecidableEq, Repr

/-- What a call does to a target, given the arguments. A member that fails may have changed the target
before. -/
abbrev Member (σ ε : Type) := σ → List Argument → σ × Reply ε

class Chainable (σ : Type) (ε : outParam Type) where
  resolve : σ → String → Option (Member σ ε)

def Reply.mapCause {ε δ : Type} (express : ε → δ) : Reply ε → Reply δ
  | .target => .target
  | .stranger => .stranger
  | .failure cause => .failure (express cause)

end PipeQuery
