import PipeQuery.Argument.Printer

/-!
# Calls

One step of a pipe expression: the name of a member and the values it is called with.
-/

set_option autoImplicit false

namespace PipeQuery

structure Call where
  name : String
  args : List Argument := []

namespace Call

instance : Inhabited Call := ⟨⟨"", []⟩⟩

def arg? (call : Call) (position : Nat) : Option Argument :=
  call.args[position]?

def chars (call : Call) : List Char :=
  call.name.toList ++ '(' :: (Argument.itemTexts call.args ++ [')'])

def display (call : Call) : String :=
  String.ofList call.chars

def same (left right : Call) : Bool :=
  left.name == right.name && Argument.sameItems left.args right.args

end Call

end PipeQuery
