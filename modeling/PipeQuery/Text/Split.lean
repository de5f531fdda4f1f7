import PipeQuery.Text.Blank
import PipeQuery.Text.Scan

/-!
# Splitting at the top level

A text is cut at every separator that the scan meets in a settled state. The pieces are trimmed and
blank ones are dropped. The lengths of the pieces bound the recursion of the readers.
-/

set_option autoImplicit false

namespace PipeQuery.Text

/-- Cuts the text at each separator met in a settled state, counting from the given scan. There is
always one piece more than there are cuts. -/
def cut (separator : Char) (scan : Scan) : List Char → List (List Char)
  | [] => [[]]
  | c :: rest =>
    if c == separator && scan.settled then [] :: cut separator (scan.step c) rest
    else
      match cut separator (scan.step c) rest with
      | [] => [[c]]
      | piece :: pieces => (c :: piece) :: pieces

def split (separator : Char) (text : List Char) : List (List Char) :=
  ((cut separator Scan.start text).map trim).filter (fun piece => !piece.isEmpty)

def splitArguments (text : String) : List String :=
  (split ',' text.toList).map String.ofList

theorem cut_ne_nil (separator : Char) (scan : Scan) (text : List Char) :
    cut separator scan text ≠ [] := by
  cases text with
  | nil => simp [cut]
  | cons c rest =>
      simp only [cut]
      split
      · simp
      · split <;> simp

theorem length_le_of_mem_cut {separator : Char} {scan : Scan} {text piece : List Char}
    (member : piece ∈ cut separator scan text) : piece.length ≤ text.length := by
  induction text generalizing scan piece with
  | nil => simp [cut] at member; simp [member]
  | cons c rest ih =>
      simp only [cut] at member
      split at member
      · rcases List.mem_cons.mp member with same | member
        · simp [same]
        · have := ih member; simp; omega
      · split at member
        · next unreachable => exact absurd unreachable (cut_ne_nil _ _ _)
        · next first others split =>
            rcases List.mem_cons.mp member with same | member
            · subst same
              have := ih (split ▸ List.mem_cons_self : first ∈ _)
              simpa using this
            · have := ih (split ▸ List.mem_cons_of_mem _ member : piece ∈ _)
              simp; omega

theorem length_le_of_mem_split {separator : Char} {text piece : List Char}
    (member : piece ∈ split separator text) : piece.length ≤ text.length := by
  obtain ⟨mapped, _⟩ := List.mem_filter.mp member
  obtain ⟨raw, rawMember, same⟩ := List.mem_map.mp mapped
  subst same
  exact Nat.le_trans (length_trim_le raw) (length_le_of_mem_cut rawMember)

end PipeQuery.Text
