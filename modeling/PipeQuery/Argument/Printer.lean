import PipeQuery.Argument.Basic
import PipeQuery.Text.Quoted
import PipeQuery.Text.Word

/-!
# Texts of arguments

The canonical text of a value. A value that has been read is read from it again if its dates stay within
four digits of a year and the text of each item and each entry is one token by itself.
-/

set_option autoImplicit false

namespace PipeQuery.Argument

def separator : List Char := [',', ' ']

/-- A key as it is written: plain if it is an identifier, else quoted. -/
def keyText (key : String) : List Char :=
  if Text.isWord key.toList then key.toList else Text.quoted key.toList

mutual

def chars : Argument → List Char
  | .bool value => (if value then "true" else "false").toList
  | .number value => value.text
  | .str content => Text.quoted content.toList
  | .instant value => value.text
  | .list items => '[' :: (itemTexts items ++ [']'])
  | .map entries => '{' :: (entryTexts entries ++ ['}'])
  | .bare word => word.toList

def itemTexts : List Argument → List Char
  | [] => []
  | [item] => chars item
  | item :: next :: items => chars item ++ separator ++ itemTexts (next :: items)

def entryTexts : List (String × Argument) → List Char
  | [] => []
  | [(key, value)] => keyText key ++ ':' :: ' ' :: chars value
  | (key, value) :: next :: entries =>
    keyText key ++ ':' :: ' ' :: (chars value ++ separator ++ entryTexts (next :: entries))

end

def display (argument : Argument) : String :=
  String.ofList argument.chars

end PipeQuery.Argument
