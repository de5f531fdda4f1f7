import PipeQuery.Proofs.Text.Character
import PipeQuery.Proofs.Text.Trim

/-!
# States of a scan

A scan is settled in one state only, the one it starts in. Blanks leave that state as it is, as does
every character without a meaning of its own.
-/

set_option autoImplicit false

namespace PipeQuery.Text

namespace Scan

theorem settled_iff {scan : Scan} : scan.settled = true ↔ scan = start := by
  rcases scan with ⟨depth, quote, escaped⟩
  simp [settled, start, and_assoc]

@[simp] theorem settled_start : start.settled = true := rfl

theorem step_ordinary {c : Char} (ordinary : isOrdinary c = true) {scan : Scan}
    (unescaped : scan.escaped = false) : scan.step c = scan := by
  simp only [isOrdinary, Bool.and_eq_true, bne_iff_ne, ne_eq, Bool.not_eq_true'] at ordinary
  obtain ⟨⟨⟨backslash, quote⟩, opening⟩, closing⟩ := ordinary
  simp [step, unescaped, backslash, quote, opening, closing]

theorem walk_ordinary {text : List Char} (ordinary : ∀ c ∈ text, isOrdinary c = true) {scan : Scan}
    (unescaped : scan.escaped = false) : scan.walk text = scan := by
  induction text with
  | nil => rfl
  | cons c rest ih =>
      rw [walk_cons, step_ordinary (ordinary c List.mem_cons_self) unescaped]
      exact ih fun d member => ordinary d (List.mem_cons_of_mem _ member)

theorem walk_blank {text : List Char} (blank : AllBlank text) : start.walk text = start :=
  walk_ordinary (fun c member => isOrdinary_of_isBlank (blank c member)) rfl

theorem step_quote {scan : Scan} {c : Char} (quote : isQuote c = true) (unescaped : scan.escaped = false)
    (outside : scan.quote = none) : scan.step c = { scan with quote := some c } := by
  have plain : c ≠ '\\' := by
    rintro rfl
    cases quote
  simp [step, unescaped, plain, quote, outside]

theorem step_same_quote {scan : Scan} {c : Char} (quote : isQuote c = true) (unescaped : scan.escaped = false)
    (inside : scan.quote = some c) : scan.step c = { scan with quote := none } := by
  have plain : c ≠ '\\' := by
    rintro rfl
    cases quote
  simp [step, unescaped, plain, quote, inside]

end Scan

theorem isBalanced_iff {text : List Char} : isBalanced text = true ↔ Scan.start.walk text = .start :=
  Scan.settled_iff

/-- Blanks around a text do not count for its balance. Blanks after a pending escape are no exception:
they are cut off before the balance is looked at. -/
theorem walk_eq_start_of_isBalanced_trim {text : List Char} (balanced : isBalanced (trim text) = true) :
    Scan.start.walk text = .start := by
  obtain ⟨leading, trailing, blankBefore, blankAfter, whole⟩ := exists_blanks_around_trim text
  rw [whole, Scan.walk_append, Scan.walk_append, Scan.walk_blank blankBefore,
    isBalanced_iff.mp balanced, Scan.walk_blank blankAfter]

end PipeQuery.Text
