import PipeQuery.Json.Document

/-!
# JSON texts

Documents are written without blanks. Strings escape quotes, backslashes and control characters only.
Infinities and the value that is not a number have no JSON form and are written as null.
-/

set_option autoImplicit false

namespace PipeQuery.Json

def hexDigit (value : Nat) : Char :=
  if value < 10 then Char.ofNat ('0'.toNat + value) else Char.ofNat ('a'.toNat + value - 10)

def escaped (c : Char) : List Char :=
  if c == '"' then ['\\', '"']
  else if c == '\\' then ['\\', '\\']
  else if c == '\n' then ['\\', 'n']
  else if c == '\r' then ['\\', 'r']
  else if c == '\t' then ['\\', 't']
  else if c.toNat == 8 then ['\\', 'b']
  else if c.toNat == 12 then ['\\', 'f']
  else if c.toNat < 32 then
    ['\\', 'u', '0', '0', hexDigit (c.toNat / 16), hexDigit (c.toNat % 16)]
  else [c]

def stringText (value : String) : String :=
  String.ofList ('"' :: value.toList.flatMap escaped ++ ['"'])

def fractionText (value : Binary64) : String :=
  if value.isFinite then String.ofList (value.text .json) else "null"

mutual

def text : Json → String
  | .null => "null"
  | .bool value => if value then "true" else "false"
  | .integer value _ => String.ofList (Text.intDigits value)
  | .fraction value => fractionText value
  | .string value => stringText value
  | .array items => "[" ++ ",".intercalate (itemTexts items) ++ "]"
  | .object members => "\x7b" ++ ",".intercalate (memberTexts members) ++ "\x7d"

def itemTexts : List Json → List String
  | [] => []
  | item :: items => text item :: itemTexts items

def memberTexts : List (String × Json) → List String
  | [] => []
  | (name, value) :: members => (stringText name ++ ":" ++ text value) :: memberTexts members

end

end PipeQuery.Json
