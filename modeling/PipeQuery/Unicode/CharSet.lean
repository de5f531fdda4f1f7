import PipeQuery.Text.Blank
import PipeQuery.Text.Digits

/-!
# Sets of characters

A set of characters is kept as the increasing list of the code points at which membership changes, so
a character is in the set exactly if an odd number of them lie at or below it.
-/

set_option autoImplicit false

namespace PipeQuery.Unicode

structure CharSet where
  /-- The code points at which membership changes, from the one where it first begins. -/
  bounds : Array Nat
deriving DecidableEq

/-- The number of bounds at or below a code point, found by halving the part between two positions. -/
def countUpTo (bounds : Array Nat) (code low high : Nat) : Nat :=
  if low < high then
    let middle := (low + high) / 2
    if bounds.getD middle 0 ≤ code then countUpTo bounds code (middle + 1) high
    else countUpTo bounds code low middle
  else low
termination_by high - low

namespace CharSet

def containsCode (set : CharSet) (code : Nat) : Bool :=
  countUpTo set.bounds code 0 set.bounds.size % 2 == 1

def contains (set : CharSet) (c : Char) : Bool :=
  set.containsCode c.toNat

def isAscii (set : CharSet) : Bool :=
  set.bounds.size % 2 == 0 && set.bounds.all (fun bound => bound ≤ 128)

def rangesBetween : List Nat → List (Nat × Nat)
  | [] => []
  | [low] => if low < 0x110000 then [(low, 0x10FFFF)] else []
  | low :: next :: bounds => (low, next - 1) :: rangesBetween bounds

def ranges (set : CharSet) : List (Nat × Nat) := rangesBetween set.bounds.toList

def onlyCode? (set : CharSet) : Option Nat :=
  match set.ranges with
  | [(low, high)] => if low == high then some low else none
  | _ => none

def all : CharSet := ⟨#[0]⟩

def ofRuns (keep : String → Bool) (runs : List (String × Nat)) : CharSet :=
  let rec go (runs : List (String × Nat)) (code : Nat) (inside : Bool) (bounds : Array Nat) :
      Array Nat :=
    match runs with
    | [] => bounds
    | (label, length) :: rest =>
      let kept := keep label
      go rest (code + length) kept (if kept == inside then bounds else bounds.push code)
  ⟨go runs 0 false #[]⟩

/-- The set whose bounds have the given distances: the first from zero, and each next one from the one
before it. -/
def ofGaps (gaps : List Nat) : CharSet :=
  ⟨(gaps.foldl (fun (state : Array Nat × Nat) gap =>
    (state.1.push (state.2 + gap), state.2 + gap)) (#[], 0)).1⟩

def push (set : CharSet) (code : Nat) : CharSet :=
  match set.bounds.back? with
  | some bound =>
    if code < bound then set
    else if code == bound then ⟨set.bounds.pop.push (code + 1)⟩
    else ⟨(set.bounds.push code).push (code + 1)⟩
  | none => ⟨#[code, code + 1]⟩

def ofCodes (codes : List Nat) : CharSet := codes.mergeSort.foldl push ⟨#[]⟩

def complement (set : CharSet) : CharSet :=
  match set.bounds.toList with
  | 0 :: bounds => ⟨bounds.toArray⟩
  | bounds => ⟨(0 :: bounds).toArray⟩

/-- The characters that are kept by their membership in two sets, of which those in neither are none.
Membership in the result changes only at a bound of one of the sets. -/
def combine (keep : Bool → Bool → Bool) (left right : CharSet) : CharSet :=
  let codes := List.merge left.bounds.toList right.bounds.toList
  let step (state : Array Nat × Bool) (code : Nat) : Array Nat × Bool :=
    let kept := keep (left.containsCode code) (right.containsCode code)
    (if kept == state.2 then state.1 else state.1.push code, kept)
  ⟨(codes.foldl step (#[], false)).1⟩

def union : CharSet → CharSet → CharSet := combine (· || ·)

def intersection : CharSet → CharSet → CharSet := combine (· && ·)

def without : CharSet → CharSet → CharSet := combine (fun inLeft inRight => inLeft && !inRight)

def symmetricDifference : CharSet → CharSet → CharSet := combine (· != ·)

end CharSet

def wordsOf (text : String) : List (List Char) :=
  let pieces := text.toList.foldr
    (fun c pieces =>
      if Text.isBlank c then [] :: pieces
      else
        match pieces with
        | [] => [[c]]
        | piece :: rest => (c :: piece) :: rest) [[]]
  pieces.filter (fun piece => !piece.isEmpty)

/-- Reads runs of labelled code points: words of letters that end in a decimal length. -/
def readRuns (text : String) : List (String × Nat) :=
  (wordsOf text).map (fun word =>
    (String.ofList (word.takeWhile Char.isAlpha), Text.natOfDigits (word.dropWhile Char.isAlpha)))

/-- Reads a set of characters from the distances of its bounds, in decimal. -/
def readGaps (text : String) : CharSet :=
  .ofGaps ((wordsOf text).map Text.natOfDigits)

end PipeQuery.Unicode
