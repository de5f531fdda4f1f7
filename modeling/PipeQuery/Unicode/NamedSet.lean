import PipeQuery.Unicode.Age
import PipeQuery.Unicode.GraphemeBreak
import PipeQuery.Unicode.Name
import PipeQuery.Unicode.Property
import PipeQuery.Unicode.ScriptExtension
import PipeQuery.Unicode.SentenceBreak
import PipeQuery.Unicode.WordBreak

/-!
# Sets of characters by name

What the name of a property, category or script denotes, and what a property and one of its values
denote.
-/

set_option autoImplicit false

namespace PipeQuery.Unicode

def named? (name : List Char) : Option CharSet :=
  let loose := looseName name
  (property? loose).or ((category? loose).or (script? loose))

def havingValue? (property value : List Char) : Option CharSet :=
  let loose := looseName value
  match looseName property with
  | "gc" | "generalcategory" => category? loose
  | "sc" | "script" => script? loose
  | "scx" | "scriptextensions" => scriptExtensions? loose
  | "age" => age? loose
  | "gcb" | "graphemeclusterbreak" => graphemeBreak? loose
  | "wb" | "wordbreak" => wordBreak? loose
  | "sb" | "sentencebreak" => sentenceBreak? loose
  | _ => none

end PipeQuery.Unicode
