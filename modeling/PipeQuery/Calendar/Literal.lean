import PipeQuery.Calendar.Internet

/-!
# Date literals

A date literal is an RFC 3339 time stamp, a mail date, or a date with or without a time of day and
without a zone, which is then read as UTC. The last group is lenient: fields may have fewer digits, and
blanks may stand in front of each.
-/

set_option autoImplicit false

namespace PipeQuery.Calendar

/-- Takes a year: any number of digits after a sign, else at most four. -/
def takeYear (text : List Char) : Option (Int × List Char) :=
  match Text.trimStart text with
  | '-' :: rest => (takeNumber 1 rest.length rest).map (fun (year, rest) => (-(year : Int), rest))
  | '+' :: rest => (takeNumber 1 rest.length rest).map (fun (year, rest) => ((year : Int), rest))
  | rest => (takeNumber 1 4 rest).map (fun (year, rest) => ((year : Int), rest))

def takeField (text : List Char) : Option (Nat × List Char) :=
  takeNumber 1 2 (Text.trimStart text)

def takeDate (text : List Char) : Option ((Int × Nat × Nat) × List Char) := do
  let (year, rest) ← takeYear text
  let rest ← takeChar '-' rest
  let (month, rest) ← takeField rest
  let rest ← takeChar '-' rest
  let (day, rest) ← takeField rest
  return ((year, month, day), rest)

def plainDateTime? (takeSeparator : List Char → Option (List Char)) (withSeconds : Bool)
    (text : List Char) : Option Instant := do
  let ((year, month, day), rest) ← takeDate text
  let rest ← takeSeparator rest
  let (hour, rest) ← takeField rest
  let rest ← takeChar ':' rest
  let (minute, rest) ← takeField rest
  let (second, nanos, rest) ←
    if withSeconds then do
      let rest ← takeChar ':' rest
      let (second, rest) ← takeField rest
      let (nanos, rest) ← takeFraction rest
      pure (second, nanos, rest)
    else pure (0, 0, rest)
  if rest.isEmpty then
    Instant.ofWritten? ⟨year, month, day, hour, minute, second, nanos, 0⟩
  else none

def plainDate? (text : List Char) : Option Instant := do
  let ((year, month, day), rest) ← takeDate text
  if rest.isEmpty then Instant.ofWritten? ⟨year, month, day, 0, 0, 0, 0, 0⟩ else none

/-- The instant of a date and time of day without a zone: with the letter `T` or blanks, which may be
missing, between them, and with or without seconds. -/
def zonelessDateTime? (text : List Char) : Option Instant :=
  let withLetter := takeChar 'T'
  let withBlanks (rest : List Char) := some (Text.trimStart rest)
  (plainDateTime? withLetter true text).or
    ((plainDateTime? withLetter false text).or
      ((plainDateTime? withBlanks true text).or (plainDateTime? withBlanks false text)))

def ofLiteral? (token : List Char) : Option Instant :=
  let text := Text.trim token
  (timestamp? text).or ((mailDate? text).or ((zonelessDateTime? text).or (plainDate? text)))

end PipeQuery.Calendar

namespace PipeQuery

def parseDateLiteral (literal : String) : Option Instant :=
  Calendar.ofLiteral? literal.toList

end PipeQuery
