import PipeQuery.Pattern.Basic

/-!
# Simplified patterns

The form of a pattern from which an automaton is made. Characters that follow each other are joined to a
text, classes of one character are characters, and choices between characters or classes are classes.
What cannot be repeated to any effect is not repeated.
-/

set_option autoImplicit false

namespace PipeQuery.Pattern

inductive Simplified where
  | empty
  | literal (text : List Char)
  | oneOf (set : Unicode.CharSet)
  | look (condition : Assertion)
  | repetition (least : Nat) (most : Option Nat) (inner : Simplified)
  | capture (inner : Simplified)
  | sequence (items : List Simplified)
  | choice (items : List Simplified)

namespace Simplified

mutual

/-- A bound below the length of what the pattern matches, which is zero only if the pattern can match the
empty text. A pattern with a part that matches nothing at all has none. -/
def leastLength? : Simplified → Option Nat
  | .empty => some 0
  | .literal text => some text.length
  | .oneOf set => if set.ranges.isEmpty then none else some 1
  | .look _ => some 0
  | .repetition least _ inner => (leastLength? inner).map (least * ·)
  | .capture inner => leastLength? inner
  | .sequence items => totalLeastLength? items
  | .choice items => smallestLeastLength? items

def totalLeastLength? : List Simplified → Option Nat
  | [] => some 0
  | item :: items => do some ((← leastLength? item) + (← totalLeastLength? items))

def smallestLeastLength? : List Simplified → Option Nat
  | [] => none
  | [item] => leastLength? item
  | item :: items => do some (min (← leastLength? item) (← smallestLeastLength? items))

end

mutual

/-- Whether the pattern is seen from its parts to match the empty text only. -/
def isWeightless : Simplified → Bool
  | .empty => true
  | .literal _ => false
  | .oneOf _ => false
  | .look _ => true
  | .repetition _ most inner => most.isSome && (most == some 0 || isWeightless inner)
  | .capture inner => isWeightless inner
  | .sequence items => areWeightless items
  | .choice items => areWeightless items

def areWeightless : List Simplified → Bool
  | [] => true
  | item :: items => isWeightless item && areWeightless items

end

mutual

/-- Whether a match has to meet a condition at the first of the positions, or at the last one. -/
def requires (condition : Assertion) (atEnd : Bool) : Simplified → Bool
  | .look other => other == condition
  | .repetition least _ inner => 0 < least && requires condition atEnd inner
  | .capture inner => requires condition atEnd inner
  | .sequence items => if atEnd then lastRequires condition items else firstRequires condition items
  | .choice items => !items.isEmpty && allRequire condition atEnd items
  | _ => false

/-- Whether the first of patterns one after the other has to meet the condition, or a later one before
which nothing is matched. -/
def firstRequires (condition : Assertion) : List Simplified → Bool
  | [] => false
  | item :: items =>
    requires condition false item || (isWeightless item && firstRequires condition items)

def lastRequires (condition : Assertion) : List Simplified → Bool
  | [] => false
  | item :: items =>
    lastRequires condition items || (areWeightless items && requires condition true item)

def allRequire (condition : Assertion) (atEnd : Bool) : List Simplified → Bool
  | [] => true
  | item :: items => requires condition atEnd item && allRequire condition atEnd items

end

mutual

/-- Whether two patterns are the same. Two that capture are not, since they capture for themselves. -/
def isSame : Simplified → Simplified → Bool
  | .empty, .empty => true
  | .literal text, .literal other => text == other
  | .oneOf set, .oneOf other => set == other
  | .look condition, .look other => condition == other
  | .repetition least most inner, .repetition otherLeast otherMost other =>
    least == otherLeast && most == otherMost && isSame inner other
  | .sequence items, .sequence others => areSame items others
  | .choice items, .choice others => areSame items others
  | _, _ => false

def areSame : List Simplified → List Simplified → Bool
  | [], [] => true
  | item :: items, other :: others => isSame item other && areSame items others
  | _, _ => false

end

def ofSet (set : Unicode.CharSet) : Simplified :=
  match set.onlyCode? with
  | some code => .literal [Char.ofNat code]
  | none => .oneOf set

def repeated (least : Nat) (most : Option Nat) (inner : Simplified) : Simplified :=
  let (least, most) :=
    if inner.isWeightless then (min least 1, some (min (most.getD 1) 1)) else (least, most)
  if least == 0 && most == some 0 then .empty
  else if least == 1 && most == some 1 then inner
  else .repetition least most inner

def before (item : Simplified) (items : List Simplified) : List Simplified :=
  match item, items with
  | .empty, _ => items
  | .literal text, .literal more :: rest => .literal (text ++ more) :: rest
  | _, _ => item :: items

def inSequence (items : List Simplified) : Simplified :=
  let parts := items.flatMap (fun
    | .sequence parts => parts
    | part => [part])
  match parts.foldr before [] with
  | [] => .empty
  | [part] => part
  | parts => .sequence parts

def charSet? : Simplified → Option Unicode.CharSet
  | .literal [c] => some (.ofCodes [c.toNat])
  | .oneOf set => some set
  | _ => none

def commonLength : List Simplified → List Simplified → Nat
  | item :: items, other :: others => if isSame item other then 1 + commonLength items others else 0
  | _, _ => 0

def parts? : Simplified → Option (List Simplified)
  | .sequence items => some items
  | _ => none

def sharedStart? (items : List Simplified) : Option (List Simplified × List Simplified) := do
  match ← items.mapM parts? with
  | [] => none
  | first :: others =>
    let count := others.foldl (fun count other => min count (commonLength first other)) first.length
    if count == 0 then none
    else some (first.take count, (first :: others).map (fun parts => inSequence (parts.drop count)))

/-- One of several patterns. What all of them start with is taken before the choice, at most so many
times. -/
def oneOfSeveral : Nat → List Simplified → Simplified
  | fuel, items =>
    let branches := items.flatMap (fun
      | .choice branches => branches
      | branch => [branch])
    match branches with
    | [] => .oneOf ⟨#[]⟩
    | [branch] => branch
    | branches =>
      match branches.mapM charSet? with
      | some sets => ofSet (sets.foldl Unicode.CharSet.union ⟨#[]⟩)
      | none =>
        match fuel, sharedStart? branches with
        | fuel + 1, some (shared, remainders) =>
          inSequence (shared ++ [oneOfSeveral fuel remainders])
        | _, _ => .choice branches

end Simplified

mutual

def simplified : Pattern → Simplified
  | .empty => .empty
  | .one charClass => .ofSet charClass.toSet
  | .assertion condition => .look condition
  | .group captures inner => if captures then .capture (simplified inner) else simplified inner
  | .repetition least most inner => .repeated least most (simplified inner)
  | .sequence items => .inSequence (allSimplified items)
  | .choice items => .oneOfSeveral (items.length + 1) (allSimplified items)

def allSimplified : List Pattern → List Simplified
  | [] => []
  | item :: items => simplified item :: allSimplified items

end

end PipeQuery.Pattern
