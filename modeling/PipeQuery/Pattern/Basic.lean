import PipeQuery.Pattern.CharClass

/-!
# Patterns

Regular expressions as trees, and how deep they may be nested.
-/

set_option autoImplicit false

namespace PipeQuery

inductive Pattern.WordEdge where
  | boundary
  | noBoundary
  | start
  | finish
  | startHalf
  | finishHalf
deriving DecidableEq, Repr

def Pattern.WordEdge.holds : Pattern.WordEdge → Bool → Bool → Bool
  | .boundary, before, after => before != after
  | .noBoundary, before, after => before == after
  | .start, before, after => !before && after
  | .finish, before, after => before && !after
  | .startHalf, before, _ => !before
  | .finishHalf, _, after => !after

inductive Pattern.Assertion where
  | textStart
  | textEnd
  | lineStart
  | lineEnd
  /-- The start of a line, where a return also ends lines, but not between it and a line feed. -/
  | lineStartAfterReturn
  /-- The end of a line, where a return also ends lines, but not between it and a line feed. -/
  | lineEndBeforeReturn
  | word (ascii : Bool) (edge : Pattern.WordEdge)
deriving DecidableEq, Repr

inductive Pattern where
  /-- Nothing, which is everywhere. Also stands for a change of flags. -/
  | empty
  | one (charClass : Pattern.CharClass)
  | assertion (condition : Pattern.Assertion)
  | group (captures : Bool) (inner : Pattern)
  | repetition (least : Nat) (most : Option Nat) (inner : Pattern)
  | sequence (items : List Pattern)
  | choice (items : List Pattern)

namespace Pattern

instance : Inhabited Pattern := ⟨.empty⟩

mutual

/-- How deep groups, repetitions, sequences, choices and classes are nested. -/
def depth : Pattern → Nat
  | .empty => 0
  | .one charClass => charClass.depth
  | .assertion _ => 0
  | .group _ inner => 1 + depth inner
  | .repetition _ _ inner => 1 + depth inner
  | .sequence items => 1 + greatestDepth items
  | .choice items => 1 + greatestDepth items

def greatestDepth : List Pattern → Nat
  | [] => 0
  | item :: items => max (depth item) (greatestDepth items)

end

def maxDepth : Nat := 250

end Pattern

end PipeQuery
