import PipeQuery.Text.Blank
import PipeQuery.Text.Digits

/-!
# Fields of written dates and times

Small readers that take a field off the front of a text and hand back what follows it.
-/

set_option autoImplicit false

namespace PipeQuery.Calendar

/-- Takes as many digits as there are, at most `most` of them, if they are at least `least`. -/
def takeNumber (least most : Nat) (text : List Char) : Option (Nat × List Char) :=
  let digits := (text.take most).takeWhile Text.isDigit
  if digits.length < least then none
  else some (Text.natOfDigits digits, text.drop digits.length)

def takeTwoDigits (text : List Char) : Option (Nat × List Char) :=
  takeNumber 2 2 text

def takeChar (expected : Char) : List Char → Option (List Char)
  | [] => none
  | c :: rest => if c == expected then some rest else none

def takeBlanks (text : List Char) : Option (List Char) :=
  let rest := Text.trimStart text
  if rest.length < text.length then some rest else none

/-- Takes the digits of a fraction of a second and counts the first nine of them as nanoseconds. -/
def takeNanos (text : List Char) : Option (Nat × List Char) :=
  let digits := text.takeWhile Text.isDigit
  let kept := digits.take 9
  if digits.isEmpty then none
  else some (Text.natOfDigits kept * 10 ^ (9 - kept.length), text.drop digits.length)

def takeFraction : List Char → Option (Nat × List Char)
  | '.' :: rest => takeNanos rest
  | text => some (0, text)

/-- The place of a three-letter name at the front of the text among the given names, in letters of
either case. -/
def takeName? (names : List String) (text : List Char) : Option (Nat × List Char) :=
  let name := String.ofList ((text.take 3).map Char.toLower)
  (names.idxOf? name).map (fun place => (place, text.drop 3))

end PipeQuery.Calendar
