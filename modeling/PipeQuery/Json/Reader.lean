import PipeQuery.Json.Document
import PipeQuery.Text.Quoted

/-!
# Reading JSON texts

A number is an integer if it has neither a point nor an exponent and fits 64 bits; minus zero has no
integer form. Of members under one name the last one stays. The depth of a document is bounded by the
length of its text, which is what bounds the recursion.
-/

set_option autoImplicit false

namespace PipeQuery.Json

def skipSpace (text : List Char) : List Char :=
  text.dropWhile (fun c => c == ' ' || c == '\n' || c == '\r' || c == '\t')

def ofNumberText? (text : List Char) : Option Json :=
  let asFraction := (Binary64.ofText? text).map .fraction
  match Text.readInt? text with
  | none => asFraction
  | some value =>
    if isWide : IsWideInt value then
      if value = 0 ∧ text.head? = some '-' then asFraction else some (.integer value isWide)
    else asFraction

def takeUnit (text : List Char) : Option (Nat × List Char) :=
  let digits := text.take 4
  if digits.length = 4 then (Text.readNat? 16 digits).map (fun unit => (unit, text.drop 4)) else none

/-- Takes the character of a numeric escape whose letter is already taken. Two escapes that stand for
the halves of a surrogate pair are one character; a half alone is none. -/
def takeUnicodeEscape (text : List Char) : Option (Char × List Char) := do
  let (unit, rest) ← takeUnit text
  if 0xD800 ≤ unit ∧ unit < 0xDC00 then
    match rest with
    | '\\' :: 'u' :: rest =>
      let (low, rest) ← takeUnit rest
      if 0xDC00 ≤ low ∧ low < 0xE000 then
        return (Char.ofNat (0x10000 + (unit - 0xD800) * 0x400 + (low - 0xDC00)), rest)
      else none
    | _ => none
  else if 0xDC00 ≤ unit ∧ unit < 0xE000 then none
  else return (Char.ofNat unit, rest)

def letterEscape? (letter : Char) : Option Char :=
  if letter == '"' || letter == '\\' || letter == '/' then some letter
  else if letter == 'b' then some (Char.ofNat 8)
  else if letter == 'f' then some (Char.ofNat 12)
  else if letter == 'n' then some '\n'
  else if letter == 'r' then some '\r'
  else if letter == 't' then some '\t'
  else none

/-- Takes the rest of a string up to its closing quote, collecting its characters in reverse. -/
def takeString : Nat → List Char → List Char → Option (String × List Char)
  | 0, _, _ => none
  | fuel + 1, collected, text =>
    match text with
    | [] => none
    | '"' :: rest => some (String.ofList collected.reverse, rest)
    | '\\' :: 'u' :: rest => do
      let (c, rest) ← takeUnicodeEscape rest
      takeString fuel (c :: collected) rest
    | '\\' :: letter :: rest => do
      let c ← letterEscape? letter
      takeString fuel (c :: collected) rest
    | c :: rest => takeString fuel (c :: collected) rest

def isNumberPart (c : Char) : Bool :=
  Text.isDigit c || c == '-' || c == '+' || c == '.' || c == 'e' || c == 'E'

mutual

def takeDocument : Nat → List Char → Option (Json × List Char)
  | 0, _ => none
  | fuel + 1, text =>
    match skipSpace text with
    | 'n' :: 'u' :: 'l' :: 'l' :: rest => some (.null, rest)
    | 't' :: 'r' :: 'u' :: 'e' :: rest => some (.bool true, rest)
    | 'f' :: 'a' :: 'l' :: 's' :: 'e' :: rest => some (.bool false, rest)
    | '"' :: rest => (takeString (rest.length + 1) [] rest).map (fun (value, rest) => (.string value, rest))
    | '[' :: rest =>
      match skipSpace rest with
      | ']' :: rest => some (.array [], rest)
      | rest => (takeItems fuel [] rest).map (fun (items, rest) => (.array items, rest))
    | '\x7b' :: rest =>
      match skipSpace rest with
      | '\x7d' :: rest => some (.object [], rest)
      | rest => (takeMembers fuel [] rest).map (fun (members, rest) => (.object members, rest))
    | text =>
      let number := text.takeWhile isNumberPart
      (ofNumberText? number).map (fun value => (value, text.drop number.length))

/-- Takes the items of an array up to its closing bracket, collecting them in reverse. -/
def takeItems : Nat → List Json → List Char → Option (List Json × List Char)
  | 0, _, _ => none
  | fuel + 1, collected, text => do
    let (item, rest) ← takeDocument fuel text
    match skipSpace rest with
    | ',' :: rest => takeItems fuel (item :: collected) rest
    | ']' :: rest => some ((item :: collected).reverse, rest)
    | _ => none

def takeMembers : Nat → Table Json → List Char → Option (Table Json × List Char)
  | 0, _, _ => none
  | fuel + 1, members, text =>
    match skipSpace text with
    | '"' :: rest => do
      let (name, rest) ← takeString (rest.length + 1) [] rest
      match skipSpace rest with
      | ':' :: rest =>
        let (value, rest) ← takeDocument fuel rest
        let members := Table.insert name value members
        match skipSpace rest with
        | ',' :: rest => takeMembers fuel members rest
        | '\x7d' :: rest => some (members, rest)
        | _ => none
      | _ => none
    | _ => none

end

def ofText? (text : String) : Option Json := do
  let (document, rest) ← takeDocument (text.length + 1) text.toList
  if (skipSpace rest).isEmpty then some document else none

end PipeQuery.Json
