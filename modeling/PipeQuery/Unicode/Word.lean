import PipeQuery.Unicode.Letter
import PipeQuery.Unicode.Mark

/-!
# Word characters

Which characters words consist of, in the text of all scripts.
-/

set_option autoImplicit false

namespace PipeQuery.Unicode

/-- Letters, marks, decimal digits, connecting punctuation and joiners. -/
def wordCharacters : CharSet :=
  (alphabetic.union wordContinuations).union joinControl

def alphanumeric : CharSet :=
  alphabetic.union numeric

end PipeQuery.Unicode
