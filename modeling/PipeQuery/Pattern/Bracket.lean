import PipeQuery.Pattern.Escape

/-!
# Classes in brackets

Lists of characters, ranges and classes in brackets, which may be nested and combined by the operators
for intersection, difference and symmetric difference. Operators have no precedence among each other.
-/

set_option autoImplicit false

namespace PipeQuery.Pattern

def asciiClass? (name : String) : Option Unicode.CharSet :=
  [("alnum", ⟨#[48, 58, 65, 91, 97, 123]⟩), ("alpha", ⟨#[65, 91, 97, 123]⟩), ("ascii", ⟨#[0, 128]⟩),
   ("blank", ⟨#[9, 10, 32, 33]⟩), ("cntrl", ⟨#[0, 32, 127, 128]⟩), ("digit", ⟨#[48, 58]⟩),
   ("graph", ⟨#[33, 127]⟩), ("lower", ⟨#[97, 123]⟩), ("print", ⟨#[32, 127]⟩),
   ("punct", ⟨#[33, 48, 58, 65, 91, 97, 123, 127]⟩), ("space", ⟨#[9, 14, 32, 33]⟩),
   ("upper", ⟨#[65, 91]⟩), ("word", ⟨#[48, 58, 65, 91, 95, 96, 97, 123]⟩),
   ("xdigit", ⟨#[48, 58, 65, 71, 97, 103]⟩)].lookup name

def readAsciiClass? (text : List Char) : Option (Bool × Unicode.CharSet × List Char) :=
  match text with
  | ':' :: rest =>
    let (negated, rest) :=
      match rest with
      | '^' :: rest => (true, rest)
      | rest => (false, rest)
    match rest.dropWhile (· != ':') with
    | ':' :: ']' :: after =>
      (asciiClass? (String.ofList (rest.takeWhile (· != ':')))).map (fun set => (negated, set, after))
    | _ => none
  | _ => none

/-- A class of which the closing bracket has not been met. -/
structure OpenBracket where
  negated : Bool
  items : List CharClass := []
  operand : Option (SetOperation × CharClass) := none

namespace OpenBracket

def push (bracket : OpenBracket) (item : CharClass) : OpenBracket :=
  { bracket with items := item :: bracket.items }

def listed (bracket : OpenBracket) : CharClass :=
  match bracket.items with
  | [] => .named ⟨#[]⟩
  | [item] => item
  | items => .union items.reverse

def content (flags : Flags) (bracket : OpenBracket) : CharClass :=
  match bracket.operand with
  | none => bracket.listed
  | some (operation, left) => .combined operation (flags.fold left) (flags.fold bracket.listed)

/-- The class after an operator, which takes all before it as its left operand. -/
def combine (flags : Flags) (operation : SetOperation) (bracket : OpenBracket) : OpenBracket :=
  { negated := bracket.negated, operand := some (operation, bracket.content flags) }

def close? (flags : Flags) (bracket : OpenBracket) : Option CharClass :=
  flags.negate? bracket.negated (flags.fold (.bracketed (bracket.content flags)))

end OpenBracket

def leadingMinuses (flags : Flags) : Nat → OpenBracket → List Char → OpenBracket × List Char
  | fuel + 1, bracket, '-' :: rest =>
    leadingMinuses flags fuel (bracket.push (.single '-')) (flags.skip rest)
  | _, bracket, text => (bracket, text)

/-- Reads what follows an opening bracket: a sign of negation, and minuses or a closing bracket that
stand for themselves. -/
def openBracket (flags : Flags) (text : List Char) : OpenBracket × List Char :=
  let (negated, text) :=
    match flags.skip text with
    | '^' :: rest => (true, flags.skip rest)
    | text => (false, text)
  match leadingMinuses flags text.length { negated } text with
  | (⟨negated, [], operand⟩, ']' :: rest) => (⟨negated, [.single ']'], operand⟩, flags.skip rest)
  | opened => opened

def readItem? (flags : Flags) : List Char → Option ((Char ⊕ CharClass) × List Char)
  | [] => none
  | '\\' :: rest => do
    let (escape, rest) ← readEscape? flags rest
    match escape with
    | .literal c isByte =>
      let c ← literalChar? flags c isByte
      if flags.unicode || c.toNat < 128 then some (.inl c, rest) else none
    | .charClass charClass => some (.inr charClass, rest)
    | .assertion _ => none
  | c :: rest => if flags.unicode || c.toNat < 128 then some (.inl c, rest) else none

/-- Whether a minus before the text makes no range: it is the last character, or part of an operator. -/
def endsItem (flags : Flags) (text : List Char) : Bool :=
  match flags.skipToSign text with
  | c :: _ => c == ']' || c == '-'
  | [] => false

def readRange? (flags : Flags) (text : List Char) : Option (CharClass × List Char) := do
  let (first, rest) ← readItem? flags text
  let alone : CharClass := first.elim .single id
  match flags.skip rest with
  | '-' :: after =>
    if endsItem flags after then some (alone, '-' :: after)
    else do
      let (last, rest) ← readItem? flags (flags.skip after)
      match first, last with
      | .inl least, .inl greatest =>
        if least ≤ greatest then some (.range least greatest, rest) else none
      | _, _ => none
  | rest => some (alone, rest)

inductive BracketState where
  | reading (inner : OpenBracket) (outer : List OpenBracket)
  | finished (charClass : CharClass)

def setOperation? : List Char → Option (SetOperation × List Char)
  | '&' :: '&' :: rest => some (.intersection, rest)
  | '-' :: '-' :: rest => some (.difference, rest)
  | '~' :: '~' :: rest => some (.symmetricDifference, rest)
  | _ => none

def stepBracket? (flags : Flags) (inner : OpenBracket) (outer : List OpenBracket) (text : List Char) :
    Option (BracketState × List Char) :=
  match text with
  | [] => none
  | '[' :: rest =>
    match readAsciiClass? rest with
    | some (negated, set, rest) =>
      (flags.negate? negated (flags.fold (.named set))).map (fun item =>
        (.reading (inner.push item) outer, rest))
    | none =>
      let (opened, rest) := openBracket flags rest
      some (.reading opened (inner :: outer), rest)
  | ']' :: rest => do
    let closed ← inner.close? flags
    match outer with
    | [] => some (.finished closed, rest)
    | parent :: outer => some (.reading (parent.push closed) outer, rest)
  | text =>
    match setOperation? text with
    | some (operation, rest) => some (.reading (inner.combine flags operation) outer, rest)
    | none =>
      (readRange? flags text).map (fun (item, rest) => (.reading (inner.push item) outer, rest))

/-- Reads to the end of a class in brackets. Every step leaves less to read. -/
def readBracket? (flags : Flags) (state : BracketState) (text : List Char) :
    Option (CharClass × List Char) :=
  match state with
  | .finished charClass => some (charClass, text)
  | .reading inner outer =>
    match stepBracket? flags inner outer (flags.skip text) with
    | none => none
    | some (next, rest) =>
      if rest.length < text.length then readBracket? flags next rest else none
termination_by text.length

def readCharClass? (flags : Flags) (text : List Char) : Option (CharClass × List Char) :=
  let (opened, rest) := openBracket flags text
  readBracket? flags (.reading opened []) rest

end PipeQuery.Pattern
