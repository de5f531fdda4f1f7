import PipeQuery.Pattern.Basic
import PipeQuery.Text.Blank
import PipeQuery.Unicode.Sign
import PipeQuery.Unicode.Word

/-!
# Flags

Letters in a pattern change how the rest of the group is read.
-/

set_option autoImplicit false

namespace PipeQuery.Pattern

structure Flags where
  ignoreCase : Bool := false
  multiLine : Bool := false
  dotAll : Bool := false
  returns : Bool := false
  unicode : Bool := true
  verbose : Bool := false
deriving DecidableEq, Repr

namespace Flags

/-- The flags after one of them has been set by its letter. Which of several matches is preferred has a
letter too, but makes no difference to whether there is one. -/
def set? (flags : Flags) (letter : Char) (value : Bool) : Option Flags :=
  match letter with
  | 'i' => some { flags with ignoreCase := value }
  | 'm' => some { flags with multiLine := value }
  | 's' => some { flags with dotAll := value }
  | 'R' => some { flags with returns := value }
  | 'u' => some { flags with unicode := value }
  | 'x' => some { flags with verbose := value }
  | 'U' => some flags
  | _ => none

def afterLetters? (flags : Flags) (value : Bool) : List Char → Option Flags
  | [] => some flags
  | '-' :: letters => afterLetters? flags false letters
  | letter :: letters => (flags.set? letter value).bind (fun flags => afterLetters? flags value letters)

def ofLetters? (flags : Flags) (letters : List Char) : Option Flags :=
  if letters.eraseDups.length == letters.length && letters.getLast? != some '-' then
    flags.afterLetters? true letters
  else none

def fold (flags : Flags) (charClass : CharClass) : CharClass :=
  if flags.ignoreCase then .folded (if flags.unicode then .unicode else .ascii) charClass
  else charClass

/-- The complement of a class if it is negated. Without characters beyond ASCII there is none, since it
would hold parts of characters. -/
def negate? (flags : Flags) (negated : Bool) (charClass : CharClass) : Option CharClass :=
  if !negated then some charClass
  else if flags.unicode then some (.complement charClass)
  else none

def dot? (flags : Flags) : Option CharClass :=
  if !flags.unicode then none
  else if flags.dotAll then some (.named .all)
  else if flags.returns then some (.complement (.named ⟨#[10, 11, 13, 14]⟩))
  else some (.complement (.single '\n'))

def caret (flags : Flags) : Assertion :=
  if !flags.multiLine then .textStart
  else if flags.returns then .lineStartAfterReturn
  else .lineStart

def dollar (flags : Flags) : Assertion :=
  if !flags.multiLine then .textEnd
  else if flags.returns then .lineEndBeforeReturn
  else .lineEnd

def shorthand? (flags : Flags) (letter : Char) : Option Unicode.CharSet :=
  match letter with
  | 'd' => some (if flags.unicode then Unicode.decimalDigits else ⟨#[48, 58]⟩)
  | 's' => some (if flags.unicode then Unicode.whiteSpace else ⟨#[9, 14, 32, 33]⟩)
  | 'w' =>
    some (if flags.unicode then Unicode.wordCharacters else ⟨#[48, 58, 65, 91, 95, 96, 97, 123]⟩)
  | _ => none

end Flags

def skipLayout (inComment : Bool) : List Char → List Char
  | [] => []
  | c :: rest =>
    if inComment then skipLayout (c != '\n') rest
    else if Text.isBlank c then skipLayout false rest
    else if c == '#' then skipLayout true rest
    else c :: rest

def Flags.skip (flags : Flags) (text : List Char) : List Char :=
  if flags.verbose then skipLayout false text else text

/-- The text from the character that a minus between brackets is judged by. Blanks are skipped before it
and the sign of a comment, but not the comment. -/
def Flags.skipToSign (flags : Flags) (text : List Char) : List Char :=
  if flags.verbose then
    match text.dropWhile Text.isBlank with
    | '#' :: rest => rest.dropWhile Text.isBlank
    | rest => rest
  else text

end PipeQuery.Pattern
