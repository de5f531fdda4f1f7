/-!
# Words

The names of members and the keys that need no quotes: a letter or underscore, then letters, digits and
underscores, all of them ASCII.
-/

set_option autoImplicit false

namespace PipeQuery.Text

def isWordStart (c : Char) : Bool :=
  c.isAlpha || c == '_'

def isWordPart (c : Char) : Bool :=
  c.isAlphanum || c == '_'

def isWord : List Char → Bool
  | [] => false
  | c :: rest => isWordStart c && rest.all isWordPart

def isIdentifier (text : String) : Bool :=
  isWord text.toList

end PipeQuery.Text
