import PipeQuery.Json.Document
import PipeQuery.Record.Basic

/-!
# JSON documents as records

A field name is a path of segments with dots between them. A segment names a member of an object or the
position of an item in an array. Only strings, truth values and numbers are values.
-/

set_option autoImplicit false

namespace PipeQuery.Json

/-- The segments of a path. There is always one more than there are dots. -/
def segments : List Char → List (List Char)
  | [] => [[]]
  | c :: rest =>
    if c == '.' then [] :: segments rest
    else
      match segments rest with
      | [] => [[c]]
      | segment :: others => (c :: segment) :: others

/-- The position in an array that a segment names: decimal digits after an optional plus, of a number
that fits 64 bits. -/
def position? (segment : List Char) : Option Nat :=
  let digits :=
    match segment with
    | '+' :: rest => rest
    | rest => rest
  (Text.readNat? 10 digits).filter (fun position => position < 2 ^ 64)

def child? (document : Json) (segment : List Char) : Option Json :=
  match document with
  | .object members => Table.find? members (String.ofList segment)
  | .array items => (position? segment).bind (fun position => items[position]?)
  | _ => none

def descend? (document : Json) (path : List (List Char)) : Option Json :=
  path.foldlM child? document

def scalar : Json → FieldValue
  | .string value => .text value
  | .bool value => .bool value
  | .integer value _ =>
    match Number.ofInt? value with
    | some number => .number number
    | none => .missing
  | .fraction value => .number (.float value)
  | _ => .missing

def field (document : Json) (path : String) : FieldValue :=
  match document.descend? (segments path.toList) with
  | some found => found.scalar
  | none => .missing

instance : Record Json where
  field := field

end PipeQuery.Json
