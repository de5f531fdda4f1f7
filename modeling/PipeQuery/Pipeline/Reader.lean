import PipeQuery.Call.Reader
import PipeQuery.Pipeline.Limits

/-!
# Reading pipe expressions

An expression is a sequence of steps with bars between them. Blank steps are skipped. The length is
checked before anything is read and the number of steps before any step is.
-/

set_option autoImplicit false

namespace PipeQuery

def stepsOf (expression : String) : List (List Char) :=
  Text.split '|' expression.toList

/-- The calls of an expression in order, read under limits. The first fault found is the answer. -/
def parsePipelineWithin (limits : Limits) (expression : String) : Except ReadError (List Call) := do
  limits.checkLength expression
  let steps := stepsOf expression
  limits.checkSteps steps.length
  steps.mapM Call.ofStep

def parsePipeline (expression : String) : Except ReadError (List Call) :=
  parsePipelineWithin .unlimited expression

def pipelineText (calls : List Call) : String :=
  " | ".intercalate (calls.map Call.display)

end PipeQuery
