import PipeQuery.Chain.Run
import PipeQuery.Query.Basic
import PipeQuery.Table

/-!
# Collections

Items in order with the members that expressions can call on them. Members are kept by name as data;
what they do is told by a class.
-/

set_option autoImplicit false

namespace PipeQuery

structure Collection (α μ : Type) where
  items : List α := []
  members : Table μ := []
  limits : Limits := {}

/-- What members do to a collection, and the causes for which they fail. -/
class Behaviour (α μ : Type) (ε : outParam Type) where
  act : μ → Member (Collection α μ) ε

instance {α μ ε : Type} [Behaviour α μ ε] : Chainable (Collection α μ) ε where
  resolve collection name := (collection.members.find? name).map Behaviour.act

namespace Collection

variable {α μ : Type}

instance : Inhabited (Collection α μ) := ⟨{}⟩

def ofList (items : List α) : Collection α μ := { items }

def register (name : String) (member : μ) (collection : Collection α μ) : Collection α μ :=
  { collection with members := collection.members.insert name member }

def withLimits (limits : Limits) (collection : Collection α μ) : Collection α μ :=
  { collection with limits }

def mapItems (change : List α → List α) (collection : Collection α μ) : Collection α μ :=
  { collection with items := change collection.items }

def filter (keep : α → Bool) (collection : Collection α μ) : Collection α μ :=
  collection.mapItems (List.filter keep)

def sort (compare : α → α → Ordering) (collection : Collection α μ) : Collection α μ :=
  collection.mapItems (stableSort compare)

/-- Keeps the items of which the query holds and sorts them by its keys. -/
def retainWhere [Record α] (query : Query) (collection : Collection α μ) : Collection α μ :=
  collection.mapItems query.apply

def count (collection : Collection α μ) : Nat :=
  collection.items.length

def isEmpty (collection : Collection α μ) : Bool :=
  collection.items.isEmpty

def pipe {ε : Type} [Behaviour α μ ε] (collection : Collection α μ) (expression : String) :
    Collection α μ × Except (ChainError ε) Unit :=
  Chain.runWithin collection.limits collection expression

end Collection

end PipeQuery
