import PipeQuery.Calendar.Instant
import PipeQuery.Calendar.Field

/-!
# Internet date formats

The time stamps of RFC 3339 and the dates of mail headers, RFC 2822. Both carry an offset from UTC.
-/

set_option autoImplicit false

namespace PipeQuery.Calendar

def takeOffsetSign (typographicMinus : Bool) : List Char → Option (Bool × List Char)
  | '+' :: rest => some (false, rest)
  | '-' :: rest => some (true, rest)
  | '\u2212' :: rest => if typographicMinus then some (true, rest) else none
  | _ => none

def offsetSeconds? (negative : Bool) (hours minutes : Nat) : Option Int :=
  let seconds : Int := hours * 3600 + minutes * 60
  if minutes < 60 then some (if negative then -seconds else seconds) else none

def takeColonZone (text : List Char) : Option (Int × List Char) :=
  match text with
  | 'Z' :: rest => some (0, rest)
  | 'z' :: rest => some (0, rest)
  | _ => do
    let (negative, rest) ← takeOffsetSign true text
    let (hours, rest) ← takeTwoDigits rest
    let rest ← takeChar ':' rest
    let (minutes, rest) ← takeTwoDigits rest
    let offset ← offsetSeconds? negative hours minutes
    return (offset, rest)

/-- The instant of an RFC 3339 time stamp. All fields have their full width, and a blank space may
stand for the letter between date and time. -/
def timestamp? (text : List Char) : Option Instant := do
  let (year, rest) ← takeNumber 4 4 text
  let rest ← takeChar '-' rest
  let (month, rest) ← takeTwoDigits rest
  let rest ← takeChar '-' rest
  let (day, rest) ← takeTwoDigits rest
  let rest ← (takeChar 'T' rest).or ((takeChar 't' rest).or (takeChar ' ' rest))
  let (hour, rest) ← takeTwoDigits rest
  let rest ← takeChar ':' rest
  let (minute, rest) ← takeTwoDigits rest
  let rest ← takeChar ':' rest
  let (second, rest) ← takeTwoDigits rest
  let (nanos, rest) ← takeFraction rest
  let (offset, rest) ← takeColonZone rest
  if rest.isEmpty then
    Instant.ofWritten? ⟨year, month, day, hour, minute, second, nanos, offset⟩
  else none

def weekdayNames : List String :=
  ["sun", "mon", "tue", "wed", "thu", "fri", "sat"]

def monthNames : List String :=
  ["jan", "feb", "mar", "apr", "may", "jun", "jul", "aug", "sep", "oct", "nov", "dec"]

/-- The offset in hours of a zone name. Of the single letters all but `J` stand for UTC. -/
def zoneHours? (name : String) : Option Int :=
  if name = "gmt" ∨ name = "ut" ∨ name = "z" then some 0
  else if name = "edt" then some (-4)
  else if name = "est" ∨ name = "cdt" then some (-5)
  else if name = "cst" ∨ name = "mdt" then some (-6)
  else if name = "mst" ∨ name = "pdt" then some (-7)
  else if name = "pst" then some (-8)
  else if name.length = 1 ∧ name ≠ "j" then some 0
  else none

def takeMailZone (text : List Char) : Option (Int × List Char) :=
  let name := text.takeWhile Char.isAlpha
  if name.isEmpty then do
    let (negative, rest) ← takeOffsetSign false text
    let (hours, rest) ← takeTwoDigits rest
    let (minutes, rest) ← takeTwoDigits rest
    let offset ← offsetSeconds? negative hours minutes
    return (offset, rest)
  else
    (zoneHours? (String.ofList (name.map Char.toLower))).map
      (fun hours => (hours * 3600, text.drop name.length))

/-- What follows the comment whose text starts here, at the given depth of parentheses. A backslash
takes the character after it out of account. -/
def afterComment (depth : Nat) : List Char → Option (List Char)
  | [] => none
  | ['\\'] => none
  | '\\' :: _ :: rest => afterComment depth rest
  | c :: rest =>
    if c == '(' then afterComment (depth + 1) rest
    else if c == ')' then (if depth = 1 then some rest else afterComment (depth - 1) rest)
    else afterComment depth rest

def dropComments : Nat → List Char → List Char
  | 0, text => text
  | most + 1, text =>
    match ((takeChar '(' (Text.trimStart text)).bind (afterComment 1)) with
    | none => text
    | some rest => dropComments most rest

/-- The year that a written one means: of two digits the nearest to 2000 that is not later than 2049,
of three digits one counted from 1900. -/
def mailYear (digits : Nat) (value : Nat) : Nat :=
  if digits = 2 then (if value ≤ 49 then value + 2000 else value + 1900)
  else if digits = 3 then value + 1900
  else value

def takeWeekday (text : List Char) : Option (Option Nat × List Char) :=
  match takeName? weekdayNames text with
  | none => some (none, text)
  | some (weekday, rest) => (takeChar ',' rest).map (fun rest => (some weekday, rest))

def takeMailSeconds (text : List Char) : Option (Nat × List Char) :=
  match takeChar ':' (Text.trimStart text) with
  | some rest => takeTwoDigits rest
  | none => some (0, text)

def mailDate? (text : List Char) : Option Instant := do
  let (weekday?, rest) ← takeWeekday (Text.trimStart text)
  let (day, rest) ← takeNumber 1 2 (Text.trimStart rest)
  let rest ← takeBlanks rest
  let (month, rest) ← takeName? monthNames rest
  let rest ← takeBlanks rest
  let (year, afterYear) ← takeNumber 2 rest.length rest
  let year := mailYear (rest.length - afterYear.length) year
  let rest ← takeBlanks afterYear
  let (hour, rest) ← takeTwoDigits rest
  let rest ← takeChar ':' (Text.trimStart rest)
  let (minute, rest) ← takeTwoDigits (Text.trimStart rest)
  let (second, rest) ← takeMailSeconds rest
  let rest ← takeBlanks rest
  let (offset, rest) ← takeMailZone rest
  let date ← Date.ofFields? year (month + 1) day
  let isRightDay := weekday?.all (fun weekday => weekday == Date.weekday date.dayNumber)
  if isRightDay && (dropComments rest.length rest).isEmpty then
    Instant.ofWritten? ⟨year, month + 1, day, hour, minute, second, 0, offset⟩
  else none

end PipeQuery.Calendar
