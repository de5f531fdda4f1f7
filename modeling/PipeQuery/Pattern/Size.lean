import PipeQuery.Pattern.ByteSequence
import PipeQuery.Pattern.Simplified

/-!
# Sizes

The memory for the states of an automaton that matches a pattern byte by byte. There are two automata,
one to find where matches end and one to find where they start from there. Repetitions are written out,
so that sizes grow fast.
-/

set_option autoImplicit false

namespace PipeQuery.Pattern

inductive Direction where
  | forward
  | backward
deriving DecidableEq, Repr

def stateSize : Nat := 32

def forkSize (ways : Nat) : Nat := stateSize + 4 * ways

def branchSize (ways : Nat) : Nat := stateSize + 8 * ways

/-- The states for what follows ranges of bytes, each by its ranges and the numbers of the states that
they lead to. Equal states are shared. The last state has number zero. -/
abbrev SharedStates := List (List (ByteRange × Nat))

def SharedStates.number (states : SharedStates) (state : List (ByteRange × Nat)) : Nat × SharedStates :=
  match states.findIdx? (· == state) with
  | some index => (states.length - index, states)
  | none => (states.length + 1, state :: states)

def groupByFirst (sequences : List (List ByteRange)) : List (ByteRange × List (List ByteRange)) :=
  sequences.foldr (fun sequence groups =>
    match sequence, groups with
    | [], _ => groups
    | range :: rest, (other, rests) :: groups =>
      if range == other then (range, rest :: rests) :: groups
      else (range, [rest]) :: (other, rests) :: groups
    | range :: rest, [] => [(range, [rest])]) []

/-- Adds the states for sequences of so many ranges at most, and tells the number of the first one. -/
def SharedStates.add (states : SharedStates) : Nat → List (List ByteRange) → Nat × SharedStates
  | 0, _ => (0, states)
  | length + 1, sequences =>
    if sequences.all List.isEmpty then (0, states)
    else
      let (state, states) := (groupByFirst sequences).foldl
        (fun (state, states) (range, rests) =>
          let (next, states) := SharedStates.add states length rests
          (state ++ [(range, next)], states)) ([], states)
      states.number state

/-- The bytes for the sequences of a class, where the rest of a sequence is shared. -/
def forwardClassSize (sequences : List (List ByteRange)) : Nat :=
  let (_, states) := SharedStates.add [] 4 sequences
  states.foldl (fun size state => size + branchSize state.length) stateSize

def startCount : Nat → List (List ByteRange) → Nat
  | 0, _ => 0
  | length + 1, sequences =>
    ((groupByFirst sequences).map (fun (_, rests) => 1 + startCount length rests)).sum

def backwardClassSize (sequences : List (List ByteRange)) : Nat :=
  forkSize sequences.length + stateSize + stateSize * startCount 4 sequences

def classSize (direction : Direction) (set : Unicode.CharSet) : Nat :=
  if set.isAscii then stateSize + branchSize set.ranges.length
  else
    let sequences := set.ranges.flatMap byteSequences
    match direction with
    | .forward => forwardClassSize sequences
    | .backward => backwardClassSize sequences

/-- Texts of bytes as a tree. The ways on from a node are listed in groups, since a text that ends at
the node is preferred to those that were added to it later. -/
inductive LiteralTree where
  | node (closed : List (List (Nat × LiteralTree))) (active : List (Nat × LiteralTree))

namespace LiteralTree

def isLeaf : LiteralTree → Bool
  | .node closed active => closed.all List.isEmpty && active.isEmpty

def insert : List Nat → LiteralTree → LiteralTree
  | [], .node closed active =>
    if !closed.isEmpty && (LiteralTree.node closed active).isLeaf then .node closed active
    else .node (closed ++ [active]) []
  | byte :: rest, .node closed active =>
    if active.any (fun way => way.1 == byte) then
      .node closed (active.map (fun way =>
        if way.1 == byte then (byte, insert rest way.2) else way))
    else
      .node closed (active.takeWhile (fun way => way.1 < byte) ++
        (byte, insert rest (.node [] [])) :: active.dropWhile (fun way => way.1 < byte))

mutual

def size : LiteralTree → Nat
  | .node closed active =>
    if closed.all List.isEmpty && active.isEmpty then 0
    else
      forkSize (closed.length + (closed.filter (fun ways => !ways.isEmpty)).length +
        (if active.isEmpty then 0 else 1)) + groupsSize closed + waysSize active.length active

def groupsSize : List (List (Nat × LiteralTree)) → Nat
  | [] => 0
  | ways :: groups => waysSize ways.length ways + groupsSize groups

/-- The bytes for a group of so many ways, of which the given ones are left. The state that leads on is
counted with the last of them. -/
def waysSize (count : Nat) : List (Nat × LiteralTree) → Nat
  | [] => 0
  | [(_, tree)] => (if count == 1 then stateSize else branchSize count) + size tree
  | (_, tree) :: ways => size tree + waysSize count ways

end

end LiteralTree

def bytesOf (text : List Char) : List Nat :=
  text.flatMap (fun c => (String.utf8EncodeChar c).map UInt8.toNat)

def Simplified.text? : Simplified → Option (List Char)
  | .literal text => some text
  | _ => none

def literalsSize (direction : Direction) (texts : List (List Char)) : Nat :=
  let insertText (tree : LiteralTree) (text : List Char) : LiteralTree :=
    match direction with
    | .forward => tree.insert (bytesOf text)
    | .backward => tree.insert (bytesOf text).reverse
  stateSize + (texts.foldl (fun tree text => insertText tree text) (.node [] [])).size

/-- The bytes for a repetition of a pattern of the given size. A pattern that may match the empty text
is repeated at least once or skipped. -/
def repetitionSize (least : Nat) (most : Option Nat) (mayBeEmpty : Bool) (inner : Nat) : Nat :=
  match least, most with
  | 0, some 1 => inner + forkSize 2 + stateSize
  | 0, none => if mayBeEmpty then inner + 2 * forkSize 2 + stateSize else inner + forkSize 2
  | least, none => least * inner + forkSize 2
  | least, some most =>
    if least == most then least * inner
    else
      (if least == 0 then stateSize else least * inner) + stateSize +
        (most - least) * (inner + forkSize 2)

namespace Simplified

mutual

def size (direction : Direction) : Simplified → Nat
  | .empty => stateSize
  | .literal text => stateSize * (bytesOf text).length
  | .oneOf set => classSize direction set
  | .look _ => stateSize
  | .repetition least most inner =>
    repetitionSize least most (inner.leastLength?.getD 0 == 0) (size direction inner)
  | .capture inner =>
    (if direction == .forward then 2 * stateSize else 0) + size direction inner
  | .sequence items => totalSize direction items
  | .choice items =>
    match items.mapM text? with
    | some texts => literalsSize direction texts
    | none => forkSize items.length + stateSize + totalSize direction items

def totalSize (direction : Direction) : List Simplified → Nat
  | [] => 0
  | item :: items => size direction item + totalSize direction items

end

/-- The bytes for all states. Unless a match has to start where the text does, there are states that
skip what precedes it, and in the other direction likewise. -/
def automatonSize (direction : Direction) (pattern : Simplified) : Nat :=
  let anchored :=
    match direction with
    | .forward => pattern.requires .textStart false
    | .backward => pattern.requires .textEnd true
  (if anchored then stateSize else forkSize 2 + stateSize + branchSize 1) +
    pattern.capture.size direction + stateSize

end Simplified

def maxSize : Nat := 10 * 2 ^ 20

def isWithinBounds (pattern : Pattern) : Bool :=
  pattern.depth ≤ maxDepth &&
    pattern.simplified.automatonSize .forward ≤ maxSize &&
    pattern.simplified.automatonSize .backward ≤ maxSize

end PipeQuery.Pattern
