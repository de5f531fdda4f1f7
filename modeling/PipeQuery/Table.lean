/-!
# Tables

A table holds values under distinct keys, in the order of the keys. Keys are ordered by code points,
which is also the order of their UTF-8 bytes.
-/

set_option autoImplicit false

namespace PipeQuery

/-- Keys and values, sorted by key. Built from the empty list by insertion only. -/
abbrev Table (α : Type) := List (String × α)

namespace Table

variable {α : Type}

def insert (key : String) (value : α) : Table α → Table α
  | [] => [(key, value)]
  | (other, kept) :: rest =>
    match compare key other with
    | .lt => (key, value) :: (other, kept) :: rest
    | .eq => (key, value) :: rest
    | .gt => (other, kept) :: insert key value rest

def find? (table : Table α) (key : String) : Option α :=
  table.lookup key

def erase (key : String) (table : Table α) : Table α :=
  table.filter (fun entry => entry.1 != key)

def contains (table : Table α) (key : String) : Bool :=
  table.any (fun entry => entry.1 == key)

def keys (table : Table α) : List String :=
  table.map Prod.fst

/-- The table of a list of entries. Of two entries under one key the later one stays. -/
def ofList (entries : List (String × α)) : Table α :=
  entries.foldl (fun table entry => insert entry.1 entry.2 table) []

end Table

end PipeQuery
