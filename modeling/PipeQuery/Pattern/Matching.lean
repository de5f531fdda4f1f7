import PipeQuery.Pattern.Basic
import PipeQuery.Unicode.Word

/-!
# Matching

Whether a pattern matches somewhere in a text. A text of some length has one more position than it has
characters, and matching leads from a set of positions to the set of those where matches end. A set of
positions is kept as one truth value for each position, in order.
-/

set_option autoImplicit false

namespace PipeQuery.Pattern

def isWordCharacter (ascii : Bool) (c : Char) : Bool :=
  if ascii then c.isAlphanum || c == '_' else Unicode.wordCharacters.contains c

def Assertion.holds (condition : Assertion) (before after : Option Char) : Bool :=
  match condition with
  | .textStart => before.isNone
  | .textEnd => after.isNone
  | .lineStart => before.isNone || before == some '\n'
  | .lineEnd => after.isNone || after == some '\n'
  | .lineStartAfterReturn =>
    before.isNone || before == some '\n' || (before == some '\r' && after != some '\n')
  | .lineEndBeforeReturn =>
    after.isNone || after == some '\r' || (after == some '\n' && before != some '\r')
  | .word ascii edge =>
    edge.holds (before.any (isWordCharacter ascii)) (after.any (isWordCharacter ascii))

/-- Keeps the positions at which a condition holds. The first position follows the given character. -/
def keepWhere (condition : Assertion) (before : Option Char) : List Char → List Bool → List Bool
  | [], reached => reached.map (fun here => here && condition.holds before none)
  | c :: rest, here :: reached =>
    (here && condition.holds before (some c)) :: keepWhere condition (some c) rest reached
  | _, [] => []

def advance (charClass : CharClass) (text : List Char) (reached : List Bool) : List Bool :=
  false :: List.zipWith (fun here c => here && charClass.contains c) reached text

def eitherOf (left right : List Bool) : List Bool :=
  List.zipWith (· || ·) left right

def iterate (step : List Bool → List Bool) : Nat → List Bool → List Bool
  | 0, reached => reached
  | count + 1, reached =>
    let next := step reached
    if next == reached then reached else iterate step count next

mutual

/-- The positions where matches of a pattern end that start at given ones. More repetitions than there
are positions lead nowhere new. -/
def through (text : List Char) : Pattern → List Bool → List Bool
  | .empty, reached => reached
  | .one charClass, reached => advance charClass text reached
  | .assertion condition, reached => keepWhere condition none text reached
  | .group _ inner, reached => through text inner reached
  | .repetition least most inner, reached =>
    let enough := text.length + 1
    let further :=
      match most with
      | none => enough
      | some most => min (most - least) enough
    iterate (fun reached => eitherOf reached (through text inner reached)) further
      (iterate (through text inner) (min least enough) reached)
  | .sequence items, reached => throughAll text items reached
  | .choice items, reached => throughAny text items reached

def throughAll (text : List Char) : List Pattern → List Bool → List Bool
  | [], reached => reached
  | item :: items, reached => throughAll text items (through text item reached)

def throughAny (text : List Char) : List Pattern → List Bool → List Bool
  | [], reached => reached.map (fun _ => false)
  | item :: items, reached => eitherOf (through text item reached) (throughAny text items reached)

end

def occursIn (pattern : Pattern) (text : String) : Bool :=
  (through text.toList pattern (List.replicate (text.toList.length + 1) true)).any id

end PipeQuery.Pattern
