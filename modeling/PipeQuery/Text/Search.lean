/-!
# Searching in texts

Whether a text stands at the start, at the end or anywhere in another one.
-/

set_option autoImplicit false

namespace PipeQuery.Text

def startsWith (text part : String) : Bool :=
  part.toList.isPrefixOf text.toList

def endsWith (text part : String) : Bool :=
  part.toList.isSuffixOf text.toList

/-- Whether the characters stand next to each other somewhere in a text. -/
def hasPart (part : List Char) : List Char → Bool
  | [] => part.isEmpty
  | c :: rest => part.isPrefixOf (c :: rest) || hasPart part rest

def contains (text part : String) : Bool :=
  hasPart part.toList text.toList

end PipeQuery.Text
