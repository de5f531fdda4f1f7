import PipeQuery.Pattern.Flags
import PipeQuery.Text.Digits
import PipeQuery.Unicode.NamedSet

/-!
# Escapes

What a backslash and the characters after it stand for. Digits and unknown letters are errors, so that
no pattern changes its meaning unnoticed.
-/

set_option autoImplicit false

namespace PipeQuery.Pattern

inductive Escape where
  | literal (c : Char) (isByte : Bool)
  | charClass (charClass : CharClass)
  | assertion (condition : Assertion)

def charOfHex? (digits : List Char) : Option Char :=
  (Text.readNat? 16 digits).bind (fun code =>
    if code.isValidChar then some (Char.ofNat code) else none)

def hexDigits? (flags : Flags) : Nat → List Char → Option (List Char × List Char)
  | 0, text => some ([], text)
  | _ + 1, [] => none
  | count + 1, c :: rest =>
    if (Text.digitValue? 16 c).isSome then
      (hexDigits? flags count (flags.skip rest)).map (fun (digits, rest) => (c :: digits, rest))
    else none

def readBraced? (flags : Flags) : Nat → List Char → Option (List Char × List Char)
  | 0, _ => none
  | fuel + 1, text =>
    match flags.skip text with
    | [] => none
    | '}' :: rest => some ([], rest)
    | c :: rest => (readBraced? flags fuel rest).map (fun (inner, rest) => (c :: inner, rest))

def untilBrace? (flags : Flags) (text : List Char) : Option (List Char × List Char) :=
  readBraced? flags (text.length + 1) text

/-- The character after the letter of a hexadecimal escape: digits in braces, or a fixed number of
them. -/
def hex? (flags : Flags) (count : Nat) (text : List Char) : Option (Escape × List Char) :=
  match flags.skip text with
  | '{' :: rest => do
    let (digits, rest) ← untilBrace? flags rest
    let c ← charOfHex? digits
    some (.literal c false, flags.skip rest)
  | text => do
    let (digits, rest) ← hexDigits? flags count text
    let c ← charOfHex? digits
    some (.literal c (count == 2), rest)

def cutAt? (sign : List Char) : List Char → Option (List Char × List Char)
  | [] => none
  | c :: rest =>
    if sign.isPrefixOf (c :: rest) then some ([], (c :: rest).drop sign.length)
    else (cutAt? sign rest).map (fun (before, after) => (c :: before, after))

/-- The set that the text between the braces of a property escape names, and whether its complement is
meant. A value follows its property after a sign of inequality, a colon, or a sign of equality. The capital
letter of the escape takes the complement once more, so that it and a sign of inequality undo each other. -/
def unicodeQuery? (query : List Char) : Option (Bool × Unicode.CharSet) :=
  match cutAt? ['!', '='] query with
  | some (property, value) => (Unicode.havingValue? property value).map (fun set => (true, set))
  | none =>
    match (cutAt? [':'] query).or (cutAt? ['='] query) with
    | some (property, value) => (Unicode.havingValue? property value).map (fun set => (false, set))
    | none => (Unicode.named? query).map (fun set => (false, set))

def property? (flags : Flags) (negated : Bool) (text : List Char) : Option (Escape × List Char) := do
  let (query, rest) ←
    match flags.skip text with
    | '{' :: rest => untilBrace? flags rest
    | c :: rest => if c == '\\' then none else some ([c], flags.skip rest)
    | [] => none
  if !flags.unicode then none
  let (differs, set) ← unicodeQuery? query
  let charClass ← flags.negate? (negated != differs) (flags.fold (.named set))
  some (.charClass charClass, rest)

def wordEdge? : List Char → Option WordEdge
  | ['s', 't', 'a', 'r', 't'] => some .start
  | ['e', 'n', 'd'] => some .finish
  | ['s', 't', 'a', 'r', 't', '-', 'h', 'a', 'l', 'f'] => some .startHalf
  | ['e', 'n', 'd', '-', 'h', 'a', 'l', 'f'] => some .finishHalf
  | _ => none

/-- What follows the letter of a word boundary: a place in braces, unless the braces belong to a
repetition. -/
def boundary? (flags : Flags) (text : List Char) : Option (Escape × List Char) :=
  match text with
  | '{' :: inner =>
    match flags.skip inner with
    | [] => none
    | c :: _ =>
      if c.isAlpha || c == '-' then do
        let (name, rest) ← untilBrace? flags inner
        let edge ← wordEdge? name
        some (.assertion (.word (!flags.unicode) edge), rest)
      else some (.assertion (.word (!flags.unicode) .boundary), text)
  | _ => some (.assertion (.word (!flags.unicode) .boundary), text)

def controlOf? : Char → Option Char
  | 'a' => some '\x07'
  | 'f' => some '\x0c'
  | 't' => some '\t'
  | 'n' => some '\n'
  | 'r' => some '\r'
  | 'v' => some '\x0b'
  | _ => none

/-- Whether a character stands for itself after a backslash: ASCII, but no letter and no digit, and not
one of the signs for the ends of words. -/
def isEscapable (c : Char) : Bool :=
  c.toNat < 128 && !c.isAlphanum && c != '<' && c != '>'

def readEscape? (flags : Flags) : List Char → Option (Escape × List Char)
  | [] => none
  | c :: rest =>
    match c with
    | 'x' => hex? flags 2 rest
    | 'u' => hex? flags 4 rest
    | 'U' => hex? flags 8 rest
    | 'p' => property? flags false rest
    | 'P' => property? flags true rest
    | 'A' => some (.assertion .textStart, rest)
    | 'z' => some (.assertion .textEnd, rest)
    | 'b' => boundary? flags rest
    | 'B' => some (.assertion (.word (!flags.unicode) .noBoundary), rest)
    | '<' => some (.assertion (.word (!flags.unicode) .start), rest)
    | '>' => some (.assertion (.word (!flags.unicode) .finish), rest)
    | _ =>
      match flags.shorthand? c.toLower with
      | some set =>
        (flags.negate? c.isUpper (.named set)).map (fun charClass => (.charClass charClass, rest))
      | none =>
        if isEscapable c then some (.literal c false, rest)
        else (controlOf? c).map (fun control => (.literal control false, rest))

def literalChar? (flags : Flags) (c : Char) (isByte : Bool) : Option Char :=
  if !flags.unicode && isByte && 128 ≤ c.toNat then none else some c

end PipeQuery.Pattern
