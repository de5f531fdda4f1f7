import PipeQuery.Record.FieldValue

/-!
# Records

Items with named fields. All that queries know about an item is what stands under a field name.
-/

set_option autoImplicit false

namespace PipeQuery

/-- Types whose values have named fields. Filtering and sorting read a field in the same way: a type has no
other accessor that its items could be sorted by. -/
class Record (α : Type) where
  field : α → String → FieldValue

end PipeQuery
