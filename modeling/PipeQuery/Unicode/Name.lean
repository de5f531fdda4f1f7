/-!
# Names of properties

Names of properties and of their values are compared loosely: without regard to case, blanks, hyphens
and underscores, and to a leading "is".
-/

set_option autoImplicit false

namespace PipeQuery.Unicode

def dropIs : List Char → List Char
  | c :: d :: rest => if c.toLower == 'i' && d.toLower == 's' then rest else c :: d :: rest
  | name => name

/-- The form of a name in which it is compared. The letter c alone is not what remains of an "isc". -/
def looseName (name : List Char) : String :=
  let kept := ((dropIs name).filter (fun c => c.toNat < 128 && c != ' ' && c != '_' && c != '-')).map
    Char.toLower
  if kept == ['c'] && (dropIs name).length < name.length then "isc" else String.ofList kept

end PipeQuery.Unicode
