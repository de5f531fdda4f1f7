import PipeQuery.Argument.Reader
import PipeQuery.Call.Basic

/-!
# Reading calls

A step is a name with arguments in parentheses, or a name alone. A step that leaves a bracket or a string
open at its end is no call at all. Brackets are only counted: one that closes too early may be made up for
by one that opens later.
-/

set_option autoImplicit false

namespace PipeQuery.Call

/-- The name and the text between the parentheses of a trimmed step written with arguments. -/
def application? (step : List Char) : Option (List Char × List Char) :=
  let name := step.takeWhile Text.isWordPart
  if Text.isWord name then
    (Text.enclosed? '(' ')' (Text.trimStart (step.dropWhile Text.isWordPart))).map
      (fun inner => (name, inner))
  else none

def ofStep (text : List Char) : Except ReadError Call :=
  let step := Text.trim text
  if !Text.isBalanced step then .error (.malformedStep (String.ofList step))
  else
    match application? step with
    | some (name, inner) =>
      (Argument.itemsOf inner).map (fun args => ⟨String.ofList name, args⟩)
    | none =>
      if Text.isWord step then .ok ⟨String.ofList step, []⟩
      else .error (.malformedStep (String.ofList step))

end PipeQuery.Call

namespace PipeQuery

def parseCall (step : String) : Except ReadError Call :=
  Call.ofStep step.toList

end PipeQuery
