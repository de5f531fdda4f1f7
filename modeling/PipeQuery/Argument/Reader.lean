import PipeQuery.Argument.Basic
import PipeQuery.ReadError
import PipeQuery.Text.Quoted
import PipeQuery.Text.Split

/-!
# Reading arguments

A token is tried as a truth value, a number, a quoted string, a date, a list and a map, in this order,
and is a bare word if it is none of them. So a plain year is a number, and only a map can go wrong. Each
value inside a list or a map stands in a token shorter than that of the list or map itself.
-/

set_option autoImplicit false
-- The equations that the matches name are used by the termination proofs only.
set_option linter.unusedVariables false

namespace PipeQuery.Argument

/-- The value of a trimmed token that holds no other values: a truth value, a number, a quoted string
or a date. -/
def ofAtom? (token : List Char) : Option Argument :=
  if token == "true".toList then some (.bool true)
  else if token == "false".toList then some (.bool false)
  else
    match Number.ofToken? token with
    | some value => some (.number value)
    | none =>
      match Text.unquote? token with
      | some content => some (.str (String.ofList content))
      | none => (Calendar.ofLiteral? token).map .instant

/-- The key that a text before a colon stands for: the content of its quotes, if it has them. -/
def keyOf (text : List Char) : String :=
  let key := Text.trim text
  String.ofList ((Text.unquote? key).getD key)

def splitAtColon? (entry : List Char) : Option (List Char × List Char) :=
  match entry.dropWhile (· != ':') with
  | [] => none
  | _ :: value => some (entry.takeWhile (· != ':'), value)

theorem length_lt_of_splitAtColon? {entry key value : List Char}
    (found : splitAtColon? entry = some (key, value)) : value.length < entry.length := by
  have shorter := (List.dropWhile_sublist (l := entry) (· != ':')).length_le
  simp only [splitAtColon?] at found
  split at found
  · cases found
  · next rest =>
      cases found
      simp_all only [List.length_cons]
      exact shorter

mutual

def ofToken (token : List Char) : Except ReadError Argument :=
  match ofAtom? (Text.trim token) with
  | some value => .ok value
  | none =>
    match inList : Text.enclosed? '[' ']' (Text.trim token) with
    | some inner => (itemsOf inner).map .list
    | none =>
      match inMap : Text.enclosed? '{' '}' (Text.trim token) with
      | some inner => (entriesOf inner).map (fun entries => .map (Table.ofList entries))
      | none => .ok (.bare (String.ofList (Text.trim token)))
termination_by 2 * token.length
decreasing_by
  · have inside := Text.length_of_enclosed? inList
    have shorter := Text.length_trim_le token
    omega
  · have inside := Text.length_of_enclosed? inMap
    have shorter := Text.length_trim_le token
    omega

def itemsOf (inner : List Char) : Except ReadError (List Argument) :=
  (Text.split ',' inner).attach.mapM (fun ⟨piece, _⟩ => ofToken piece)
termination_by 2 * inner.length + 1
decreasing_by
  have shorter := Text.length_le_of_mem_split ‹_›
  omega

def entriesOf (inner : List Char) : Except ReadError (List (String × Argument)) :=
  (Text.split ',' inner).attach.mapM fun ⟨entry, _⟩ =>
    match parts : splitAtColon? entry with
    | none => .error (.entryWithoutColon (String.ofList entry))
    | some (key, value) => (ofToken value).map (fun argument => (keyOf key, argument))
termination_by 2 * inner.length + 1
decreasing_by
  have shorter := Text.length_le_of_mem_split ‹_›
  have after := length_lt_of_splitAtColon? parts
  omega

end

def withoutBrackets (opening closing : Char) (token : List Char) : List Char :=
  let trimmed := Text.trim token
  (Text.enclosed? opening closing trimmed).getD trimmed

end Argument

def parseArgument (token : String) : Except ReadError Argument :=
  Argument.ofToken token.toList

def parseList (token : String) : Except ReadError (List Argument) :=
  Argument.itemsOf (Argument.withoutBrackets '[' ']' token.toList)

/-- The table of a map token, in which a repeated key keeps its last value. A token without braces is
read as their inside. -/
def parseMap (token : String) : Except ReadError (Table Argument) :=
  (Argument.entriesOf (Argument.withoutBrackets '{' '}' token.toList)).map Table.ofList

end PipeQuery
