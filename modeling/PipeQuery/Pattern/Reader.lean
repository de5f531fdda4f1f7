import PipeQuery.Pattern.Bracket
import PipeQuery.Pattern.Size

/-!
# Reading patterns

A pattern is read from left to right with the groups around the place that has been reached. Flags set
inside a group hold to its end. There is no look-around and no reference back to a group.
-/

set_option autoImplicit false

namespace PipeQuery.Pattern

/-- A group of which the closing parenthesis has not been met. -/
structure OpenGroup where
  flags : Flags
  captures : Bool := false
  branches : List Pattern := []
  items : List Pattern := []

namespace OpenGroup

def push (group : OpenGroup) (item : Pattern) : OpenGroup :=
  { group with items := item :: group.items }

def branch (group : OpenGroup) : Pattern :=
  match group.items with
  | [] => .empty
  | [item] => item
  | items => .sequence items.reverse

def nextBranch (group : OpenGroup) : OpenGroup :=
  { group with branches := group.branch :: group.branches, items := [] }

def content (group : OpenGroup) : Pattern :=
  match group.branches with
  | [] => group.branch
  | branches => .choice (group.branch :: branches).reverse

/-- The group with its last part repeated. Nothing and a change of flags cannot be repeated. -/
def repeatLast? (group : OpenGroup) (least : Nat) (most : Option Nat) : Option OpenGroup :=
  match group.items with
  | [] => none
  | .empty :: _ => none
  | item :: items => some { group with items := .repetition least most item :: items }

end OpenGroup

structure ReadState where
  names : List (List Char) := []
  inner : OpenGroup
  outer : List OpenGroup := []

def ReadState.push (state : ReadState) (item : Pattern) : ReadState :=
  { state with inner := state.inner.push item }

def isNameChar (first : Bool) (c : Char) : Bool :=
  c == '_' ||
    (if first then Unicode.alphabetic.contains c
    else c == '.' || c == '[' || c == ']' || Unicode.alphanumeric.contains c)

def isGroupName : List Char → Bool
  | [] => false
  | c :: rest => isNameChar true c && rest.all (isNameChar false)

def ReadState.openGroup (state : ReadState) (flags : Flags) (captures : Bool) : ReadState :=
  { state with inner := { flags, captures }, outer := state.inner :: state.outer }

def openNamedGroup? (state : ReadState) (text : List Char) : Option (ReadState × List Char) :=
  let name := text.takeWhile (· != '>')
  match text.dropWhile (· != '>') with
  | [] => none
  | _ :: rest =>
    if isGroupName name && !state.names.contains name then
      some ({ state.openGroup state.inner.flags true with names := name :: state.names }, rest)
    else none

def readFlags? (state : ReadState) (text : List Char) : Option (ReadState × List Char) := do
  let letters := text.takeWhile (fun c => c != ':' && c != ')')
  let flags ← state.inner.flags.ofLetters? letters
  match text.dropWhile (fun c => c != ':' && c != ')') with
  | ':' :: rest => some (state.openGroup flags false, rest)
  | ')' :: rest =>
    if letters.isEmpty then none
    else some ({ state with inner := { state.inner with flags }.push .empty }, rest)
  | _ => none

def readOpening? (state : ReadState) (text : List Char) : Option (ReadState × List Char) :=
  match state.inner.flags.skip text with
  | '?' :: '=' :: _ => none
  | '?' :: '!' :: _ => none
  | '?' :: '<' :: '=' :: _ => none
  | '?' :: '<' :: '!' :: _ => none
  | '?' :: 'P' :: '<' :: rest => openNamedGroup? state rest
  | '?' :: '<' :: rest => openNamedGroup? state rest
  | '?' :: rest => readFlags? state rest
  | rest => some (state.openGroup state.inner.flags true, rest)

def closeGroup? (state : ReadState) : Option ReadState :=
  match state.outer with
  | [] => none
  | parent :: outer =>
    some { state with
      inner := parent.push (.group state.inner.captures state.inner.content), outer }

/-- The text after a question mark, which only says which match is preferred. -/
def skipPreference : List Char → List Char
  | '?' :: rest => rest
  | text => text

def ReadState.repeatLast? (state : ReadState) (least : Nat) (most : Option Nat) : Option ReadState :=
  (state.inner.repeatLast? least most).map (fun inner => { state with inner })

def countDigits (flags : Flags) : Nat → List Char → List Char × List Char
  | fuel + 1, c :: rest =>
    if Text.isDigit c then
      let (digits, rest) := countDigits flags fuel (flags.skip rest)
      (c :: digits, rest)
    else ([], c :: rest)
  | _, text => ([], text)

/-- Reads a count, which fits thirty-two bits. Blanks around it are skipped. -/
def readCount? (flags : Flags) (text : List Char) : Option (Nat × List Char) := do
  let (digits, rest) := countDigits flags text.length (Text.trimStart text)
  let count ← Text.readNat? 10 digits
  if count < 2 ^ 32 then some (count, Text.trimStart rest) else none

def readBounds? (flags : Flags) (text : List Char) : Option (Nat × Option Nat × List Char) := do
  let (least, rest) ← readCount? flags (flags.skip text)
  match rest with
  | '}' :: rest => some (least, some least, rest)
  | ',' :: rest =>
    match flags.skip rest with
    | '}' :: rest => some (least, none, rest)
    | rest => do
      let (most, rest) ← readCount? flags rest
      match rest with
      | '}' :: rest => if least ≤ most then some (least, some most, rest) else none
      | _ => none
  | _ => none

def literalPattern (flags : Flags) (c : Char) : Pattern :=
  .one (flags.fold (.single c))

def stepPattern? (state : ReadState) (text : List Char) : Option (ReadState × List Char) :=
  let flags := state.inner.flags
  match text with
  | [] => none
  | '(' :: rest => readOpening? state rest
  | ')' :: rest => (closeGroup? state).map (fun state => (state, rest))
  | '|' :: rest => some ({ state with inner := state.inner.nextBranch }, rest)
  | '[' :: rest =>
    (readCharClass? flags rest).map (fun (charClass, rest) => (state.push (.one charClass), rest))
  | '?' :: rest => (state.repeatLast? 0 (some 1)).map (fun state => (state, skipPreference rest))
  | '*' :: rest => (state.repeatLast? 0 none).map (fun state => (state, skipPreference rest))
  | '+' :: rest => (state.repeatLast? 1 none).map (fun state => (state, skipPreference rest))
  | '{' :: rest => do
    let (least, most, rest) ← readBounds? flags rest
    let state ← state.repeatLast? least most
    some (state, skipPreference (flags.skip rest))
  | '\\' :: rest => do
    let (escape, rest) ← readEscape? flags rest
    match escape with
    | .literal c isByte =>
      let c ← literalChar? flags c isByte
      some (state.push (literalPattern flags c), rest)
    | .charClass charClass => some (state.push (.one charClass), rest)
    | .assertion condition => some (state.push (.assertion condition), rest)
  | '.' :: rest => flags.dot?.map (fun charClass => (state.push (.one charClass), rest))
  | '^' :: rest => some (state.push (.assertion flags.caret), rest)
  | '$' :: rest => some (state.push (.assertion flags.dollar), rest)
  | c :: rest => some (state.push (literalPattern flags c), rest)

/-- Reads to the end of a pattern, where no group is open. Every step leaves less to read. -/
def readPattern? (state : ReadState) (text : List Char) : Option Pattern :=
  match state.inner.flags.skip text with
  | [] => if state.outer.isEmpty then some state.inner.content else none
  | c :: rest =>
    match stepPattern? state (c :: rest) with
    | none => none
    | some (next, rest) =>
      if rest.length < text.length then readPattern? next rest else none
termination_by text.length

def ofText? (text : String) : Option Pattern :=
  (readPattern? { inner := { flags := {} } } text.toList).filter isWithinBounds

end PipeQuery.Pattern
