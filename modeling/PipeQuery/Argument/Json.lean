import PipeQuery.Call.Basic
import PipeQuery.Json.Writer

/-!
# Arguments and calls as JSON

Values are written without their kind, so a quoted string, a bare word and an instant are all strings.
-/

set_option autoImplicit false

namespace PipeQuery

namespace Argument

mutual

def toJson : Argument → Json
  | .bool value => .bool value
  | .number value => .ofNumber value
  | .str content => .string content
  | .instant value => .string (String.ofList value.text)
  | .list items => .array (itemsToJson items)
  | .map entries => .object (entriesToJson entries)
  | .bare word => .string word

def itemsToJson : List Argument → List Json
  | [] => []
  | item :: items => toJson item :: itemsToJson items

def entriesToJson : List (String × Argument) → List (String × Json)
  | [] => []
  | (key, value) :: entries => (key, toJson value) :: entriesToJson entries

end

end Argument

def Call.toJson (call : Call) : Json :=
  .object [("name", .string call.name), ("args", .array (Argument.itemsToJson call.args))]

end PipeQuery
