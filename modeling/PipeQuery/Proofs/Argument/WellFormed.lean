import PipeQuery.Call.Basic
import PipeQuery.Proofs.Argument.Legible

/-!
# Well-formed values

Values whose texts read back and are closed in themselves, so that they may be nested freely: strings
need a quote that does not break them, keys must not hide the colon that ends them, instants have a year
of four digits, and a bare word is closed in itself, has no comma of its own and reads as nothing else.
Everything else is well formed as it is.
-/

set_option autoImplicit false

namespace PipeQuery

/-- A key that reads back: an identifier, or a text without a colon that can be quoted. -/
def Argument.IsKey (key : String) : Prop :=
  Text.isIdentifier key = true ∨ (':' ∉ key.toList ∧ Text.IsQuotable key.toList)

/-- The values whose texts read back. -/
inductive Argument.WellFormed : Argument → Prop where
  | bool (value : Bool) : WellFormed (.bool value)
  | number {value : Number} : value.WellFormed → WellFormed (.number value)
  | str {content : String} : Text.IsQuotable content.toList → WellFormed (.str content)
  | instant {value : Instant} : value.WellFormed → WellFormed (.instant value)
  | list {items : List Argument} : (∀ item ∈ items, WellFormed item) → WellFormed (.list items)
  | map {entries : Table Argument} : entries.Sorted → (∀ entry ∈ entries, IsKey entry.1) →
      (∀ entry ∈ entries, WellFormed entry.2) → WellFormed (.map entries)
  | bare {word : String} : word ≠ "" → Text.trim word.toList = word.toList →
      parseArgument word = .ok (.bare word) → Text.Closed word.toList →
      Text.isWhole ',' .start word.toList = true → WellFormed (.bare word)

/-- A call by an identifier with arguments that read back. -/
structure Call.WellFormed (call : Call) : Prop where
  name : Text.isIdentifier call.name = true
  args : ∀ argument ∈ call.args, argument.WellFormed

namespace Argument

open Text

/-! ## Pieces -/

theorem closed_separator : Closed separator :=
  closed_of_ordinary (List.forall_mem_cons.mpr ⟨rfl, List.forall_mem_singleton.mpr rfl⟩)

theorem IsKey.colonless {key : String} (isKey : IsKey key) : ':' ∉ key.toList := by
  rcases isKey with word | ⟨colonless, -⟩
  · intro member
    have part := isWordPart_of_mem_word word ':' member
    revert part
    decide
  · exact colonless

theorem IsKey.isWritten {key : String} (isKey : IsKey key) :
    Text.isIdentifier key = true ∨ IsQuotable key.toList :=
  isKey.imp_right And.right

theorem piece_keyText {key : String} (written : Text.isIdentifier key = true ∨ IsQuotable key.toList) :
    Piece ',' (keyText key) := by
  unfold keyText
  split
  · next word => exact piece_of_word rfl word
  · next notWord => exact .quoted rfl (written.resolve_left notWord)

theorem piece_entryText {entry : String × Argument}
    (written : Text.isIdentifier entry.1 = true ∨ IsQuotable entry.1.toList)
    (piece : Piece ',' entry.2.chars) : Piece ',' (entryText entry) :=
  (piece_keyText written).joined [':', ' ']
    (List.forall_mem_cons.mpr ⟨rfl, List.forall_mem_singleton.mpr rfl⟩) (by decide) piece

theorem WellFormed.piece {value : Argument} (wellFormed : value.WellFormed) : Piece ',' value.chars := by
  induction wellFormed with
  | bool value => exact piece_bool value
  | number wellFormed => rw [chars]; exact piece_number wellFormed
  | str quotable => rw [chars]; exact .quoted rfl quotable
  | instant wellFormed => rw [chars]; exact Instant.piece_text wellFormed.legible.year
  | @list items _ pieces =>
      rw [chars, itemTexts_eq_intercalate]
      refine .bracketed rfl rfl rfl (closed_intercalate closed_separator ?_)
      simp only [List.forall_mem_map]
      exact fun item member => (pieces item member).closed
  | @map entries _ keys _ pieces =>
      rw [chars, entryTexts_eq_intercalate]
      refine .bracketed rfl rfl rfl (closed_intercalate closed_separator ?_)
      simp only [List.forall_mem_map]
      exact fun entry member => (piece_entryText (keys entry member).isWritten (pieces entry member)).closed
  | @bare word nonempty trimmed _ closed whole =>
      rw [chars]
      refine ⟨closed, whole, trimmed ▸ trimmed_trim word.toList, ?_⟩
      exact fun empty => nonempty (String.toList_inj.mp empty)

/-! ## Reading back -/

/-- Well-formed values are legible, since pieces stand alone. -/
theorem WellFormed.legible {value : Argument} (wellFormed : value.WellFormed) : value.Legible := by
  induction wellFormed with
  | bool value => exact .bool value
  | number wellFormed => exact .number wellFormed
  | @str content _ => exact .str content
  | instant wellFormed => exact .instant wellFormed.legible
  | list wellFormed legible =>
      refine .list legible fun item member => ?_
      exact ⟨(wellFormed item member).piece.nonempty, (wellFormed item member).piece.standsAlone⟩
  | map sorted keys wellFormed legible =>
      refine .map sorted (fun entry member => (keys entry member).colonless) legible fun entry member => ?_
      exact (piece_entryText (keys entry member).isWritten (wellFormed entry member).piece).standsAlone
  | @bare word _ trimmed reads => exact .bare (trimmed ▸ trimmed_trim word.toList) reads

theorem WellFormed.ofToken_chars {value : Argument} (wellFormed : value.WellFormed) :
    ofToken value.chars = .ok value :=
  wellFormed.legible.ofToken_chars

theorem WellFormed.split_itemTexts {items : List Argument} (wellFormed : ∀ item ∈ items, item.WellFormed) :
    split ',' (itemTexts items) = items.map chars :=
  Argument.split_itemTexts (fun item member => (wellFormed item member).piece.trimmed) fun item member =>
    ⟨(wellFormed item member).piece.nonempty, (wellFormed item member).piece.standsAlone⟩

end Argument

end PipeQuery
