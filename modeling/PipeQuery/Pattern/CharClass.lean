import PipeQuery.Unicode.CaseFolding

/-!
# Classes of characters

What one character of a text may be. A class is kept as it is written, since folding case and taking the
complement do not commute.
-/

set_option autoImplicit false

namespace PipeQuery.Pattern

/-- Which characters count as the same when case is ignored. -/
inductive Folding where
  | ascii
  | unicode
deriving DecidableEq, Repr

def Folding.variants : Folding → Char → List Char
  | .ascii => Unicode.asciiCaseVariants
  | .unicode => Unicode.caseVariants

def Folding.classes : Folding → List (List Nat)
  | .ascii => Unicode.asciiCaseClasses
  | .unicode => Unicode.caseClasses

inductive SetOperation where
  | intersection
  | difference
  | symmetricDifference
deriving DecidableEq, Repr

def SetOperation.apply : SetOperation → Bool → Bool → Bool
  | .intersection, left, right => left && right
  | .difference, left, right => left && !right
  | .symmetricDifference, left, right => left != right

inductive CharClass where
  | range (least greatest : Char)
  | named (set : Unicode.CharSet)
  /-- The characters that are in a class but for their case. -/
  | folded (folding : Folding) (inner : CharClass)
  | complement (inner : CharClass)
  | union (items : List CharClass)
  | combined (operation : SetOperation) (left right : CharClass)
  | bracketed (inner : CharClass)

namespace CharClass

def single (c : Char) : CharClass := .range c c

mutual

def contains : CharClass → Char → Bool
  | .range least greatest, c => least ≤ c && c ≤ greatest
  | .named set, c => set.contains c
  | .folded folding inner, c => (folding.variants c).any (fun variant => contains inner variant)
  | .complement inner, c => !contains inner c
  | .union items, c => containsAny items c
  | .combined operation left right, c => operation.apply (contains left c) (contains right c)
  | .bracketed inner, c => contains inner c

def containsAny : List CharClass → Char → Bool
  | [], _ => false
  | item :: items, c => contains item c || containsAny items c

end

mutual

/-- How deep brackets, lists of items and operations are nested. -/
def depth : CharClass → Nat
  | .range _ _ => 0
  | .named _ => 0
  | .folded _ inner => depth inner
  | .complement inner => depth inner
  | .union items => 1 + greatestDepth items
  | .combined _ left right => 1 + max (depth left) (depth right)
  | .bracketed inner => 1 + depth inner

def greatestDepth : List CharClass → Nat
  | [] => 0
  | item :: items => max (depth item) (greatestDepth items)

end

mutual

def toSet : CharClass → Unicode.CharSet
  | .range least greatest => ⟨#[least.toNat, greatest.toNat + 1]⟩
  | .named set => set
  | .folded folding inner => (toSet inner).closeUnder folding.classes
  | .complement inner => (toSet inner).complement
  | .union items => unionOf items
  | .combined operation left right =>
    Unicode.CharSet.combine operation.apply (toSet left) (toSet right)
  | .bracketed inner => toSet inner

def unionOf : List CharClass → Unicode.CharSet
  | [] => ⟨#[]⟩
  | item :: items => (toSet item).union (unionOf items)

end

end CharClass

end PipeQuery.Pattern
