/-!
# Scanning for structure

A left-to-right scan that knows how deeply brackets are nested, which string is open and whether the
next character is escaped. Splitting, balance and the choice of quotes all read the same scan.
-/

set_option autoImplicit false

namespace PipeQuery.Text

structure Scan where
  /-- Opening less closing brackets seen outside strings; negative after a stray closing bracket. -/
  depth : Int := 0
  quote : Option Char := none
  escaped : Bool := false
deriving DecidableEq, Repr

def isQuote (c : Char) : Bool :=
  c == '"' || c == '\''

def isOpening (c : Char) : Bool :=
  c == '[' || c == '{' || c == '('

def isClosing (c : Char) : Bool :=
  c == ']' || c == '}' || c == ')'

namespace Scan

def start : Scan := {}

def inside (quote : Char) : Scan := { quote := some quote }

/-- Outside brackets and strings, with no escape pending. Only here does a separator separate. -/
def settled (scan : Scan) : Bool :=
  scan.depth == 0 && scan.quote.isNone && !scan.escaped

/-- Reads one character. A backslash escapes the next character inside strings and outside; a quote of
the other kind is an ordinary character inside a string, and so are brackets. -/
def step (scan : Scan) (c : Char) : Scan :=
  if scan.escaped then { scan with escaped := false }
  else if c == '\\' then { scan with escaped := true }
  else if isQuote c then
    match scan.quote with
    | none => { scan with quote := some c }
    | some opened => if opened == c then { scan with quote := none } else scan
  else if scan.quote.isSome then scan
  else if isOpening c then { scan with depth := scan.depth + 1 }
  else if isClosing c then { scan with depth := scan.depth - 1 }
  else scan

def walk (scan : Scan) (text : List Char) : Scan :=
  text.foldl step scan

@[simp] theorem walk_nil (scan : Scan) : scan.walk [] = scan := rfl

@[simp] theorem walk_cons (scan : Scan) (c : Char) (text : List Char) :
    scan.walk (c :: text) = (scan.step c).walk text := rfl

theorem walk_append (scan : Scan) (left right : List Char) :
    scan.walk (left ++ right) = (scan.walk left).walk right :=
  List.foldl_append

end Scan

/-- As many brackets close as open, no string is left open and the text does not end on a pending
escape. -/
def isBalanced (text : List Char) : Bool :=
  (Scan.start.walk text).settled

end PipeQuery.Text
