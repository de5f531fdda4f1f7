import PipeQuery.Collection.Basic

/-!
# Query members

The members that query a collection of records. The arguments are checked before any item is touched.
-/

set_option autoImplicit false

namespace PipeQuery

inductive QueryMember where
  | keep
  | drop
  | sortBy
  | limit
  | offset
  | reverse
deriving DecidableEq, Repr

namespace QueryMember

def name : QueryMember → String
  | .keep => "where"
  | .drop => "where_not"
  | .sortBy => "sort_by"
  | .limit => "limit"
  | .offset => "offset"
  | .reverse => "reverse"

def every : List QueryMember := [.keep, .drop, .sortBy, .limit, .offset, .reverse]

def arity : QueryMember → Arity
  | .keep => ⟨2, 3⟩
  | .drop => ⟨2, 3⟩
  | .sortBy => ⟨1, 2⟩
  | .limit => ⟨1, 1⟩
  | .offset => ⟨1, 1⟩
  | .reverse => ⟨0, 0⟩

def checkCount (member : QueryMember) (args : List Argument) : Except QueryError Unit :=
  if member.arity.accepts args.length then .ok ()
  else .error (.argumentCount member.name member.arity args.length)

def textOf (member : QueryMember) (position : Nat) (argument : Argument) : Except QueryError String :=
  match argument.text? with
  | some text => .ok text
  | none => .error (.argumentRole member.name position .text argument.kind)

/-- The count that an argument is: a number that is whole and fits sixty-four bits. -/
def countOf (member : QueryMember) (argument : Argument) : Except QueryError Nat :=
  match argument.number?.bind Number.toUInt64? with
  | some count => .ok count.toNat
  | none => .error (.argumentRole member.name 1 .count argument.kind)

/-- The clause that the arguments spell: a field, an operator if it is not equality, and a value. -/
def clauseOf (member : QueryMember) (args : List Argument) : Except QueryError Clause := do
  member.checkCount args
  match args with
  | [field, value] => Clause.ofArgument (← member.textOf 1 field) .eq value
  | [field, operator, value] => do
    let field ← member.textOf 1 field
    let operator ← Operator.ofWord (← member.textOf 2 operator)
    Clause.ofArgument field operator value
  | _ => .error (.argumentCount member.name member.arity args.length)

/-- The key that the arguments spell: a field, and a direction if it is not the ascending one. -/
def keyOf (member : QueryMember) (args : List Argument) : Except QueryError SortKey := do
  member.checkCount args
  match args with
  | [field] => return ⟨← member.textOf 1 field, .ascending⟩
  | [field, direction] => do
    let field ← member.textOf 1 field
    return ⟨field, ← Direction.ofWord (← member.textOf 2 direction)⟩
  | _ => .error (.argumentCount member.name member.arity args.length)

def onlyCountOf (member : QueryMember) (args : List Argument) : Except QueryError Nat := do
  member.checkCount args
  match args with
  | [argument] => member.countOf argument
  | _ => .error (.argumentCount member.name member.arity args.length)

def changeOf {α : Type} [Record α] (member : QueryMember) (args : List Argument) :
    Except QueryError (List α → List α) :=
  match member with
  | .keep => (member.clauseOf args).map (fun clause => Query.apply { required := [clause] })
  | .drop => (member.clauseOf args).map (fun clause => Query.apply { excluded := [clause] })
  | .sortBy => (member.keyOf args).map (fun key => Query.apply { keys := [key] })
  | .limit => (member.onlyCountOf args).map List.take
  | .offset => (member.onlyCountOf args).map List.drop
  | .reverse => (member.checkCount args).map (fun _ => List.reverse)

/-- What the member does to a collection. It fails only before it changes anything. -/
def act {α μ : Type} [Record α] (member : QueryMember) : Member (Collection α μ) QueryError :=
  fun collection args =>
    match member.changeOf args with
    | .ok change => (collection.mapItems change, .target)
    | .error cause => (collection, .failure cause)

instance {α : Type} [Record α] : Behaviour α QueryMember QueryError where
  act := act

end QueryMember

namespace Collection

def registerAll {α μ : Type} (entries : List (String × μ)) (collection : Collection α μ) :
    Collection α μ :=
  entries.foldl (fun collection entry => collection.register entry.1 entry.2) collection

def withQueryMembers {α μ : Type} (embed : QueryMember → μ) (collection : Collection α μ) :
    Collection α μ :=
  collection.registerAll (QueryMember.every.map (fun member => (member.name, embed member)))

end Collection

end PipeQuery
