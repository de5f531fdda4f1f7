import PipeQuery.Proofs.Text.Quoted

/-!
# Parts of a text

Cutting, trimming and taking quotes or brackets off only leave characters out: what they return stands in
the text, in one run.
-/

set_option autoImplicit false

namespace PipeQuery.Text

theorem infix_trim (text : List Char) : trim text <:+: text := by
  obtain ⟨leading, trailing, -, -, whole⟩ := exists_blanks_around_trim text
  exact ⟨leading, trailing, whole.symm⟩

theorem infix_of_enclosed? {opening closing : Char} {token inner : List Char}
    (found : enclosed? opening closing token = some inner) : inner <:+: token := by
  rw [eq_of_enclosed? found]
  exact ⟨[opening], [closing], rfl⟩

theorem length_lt_of_enclosed?_trim {opening closing : Char} {token inner : List Char}
    (found : enclosed? opening closing (trim token) = some inner) : inner.length < token.length := by
  have brackets := length_of_enclosed? found
  have shorter := length_trim_le token
  omega

theorem infix_of_unquote? {token content : List Char} (found : unquote? token = some content) :
    content <:+: token := by
  rcases Option.or_eq_some_iff.mp found with double | ⟨-, single⟩
  · exact infix_of_enclosed? double
  · exact infix_of_enclosed? single

/-! ## Pieces -/

theorem intercalate_cons_head {c : Char} {joint piece : List Char} {pieces : List (List Char)} :
    joint.intercalate ((c :: piece) :: pieces) = c :: joint.intercalate (piece :: pieces) := by
  cases pieces with
  | nil => simp
  | cons next pieces => simp [List.intercalate_cons_cons]

/-- The pieces with separators between them are the text that was cut. -/
theorem intercalate_cut (separator : Char) (scan : Scan) (text : List Char) :
    [separator].intercalate (cut separator scan text) = text := by
  induction text generalizing scan with
  | nil => rfl
  | cons c text ih =>
      have later := ih (scan.step c)
      rw [cut]
      split
      next ends =>
        obtain rfl : c = separator := beq_iff_eq.mp (Bool.and_eq_true_iff.mp ends).1
        cases pieces : cut c (scan.step c) text with
        | nil => exact absurd pieces (cut_ne_nil _ _ _)
        | cons first others =>
            rw [List.intercalate_cons_cons, ← pieces, later]
            rfl
      next =>
        cases pieces : cut separator (scan.step c) text with
        | nil => exact absurd pieces (cut_ne_nil _ _ _)
        | cons first others => rw [intercalate_cons_head, ← pieces, later]

theorem infix_of_mem_intercalate {joint piece : List Char} {pieces : List (List Char)}
    (member : piece ∈ pieces) : piece <:+: joint.intercalate pieces := by
  induction pieces with
  | nil => cases member
  | cons first pieces ih =>
      cases pieces with
      | nil =>
          obtain rfl := List.mem_singleton.mp member
          simp
      | cons next pieces =>
          rw [List.intercalate_cons_cons]
          rcases List.mem_cons.mp member with rfl | later
          · exact (List.prefix_append _ _).isInfix.trans (List.prefix_append _ _).isInfix
          · exact (ih later).trans (List.suffix_append _ _).isInfix

theorem infix_of_mem_split {separator : Char} {text piece : List Char}
    (member : piece ∈ split separator text) : piece <:+: text := by
  obtain ⟨raw, among, rfl⟩ := List.mem_map.mp (List.mem_filter.mp member).1
  have inside : raw <:+: [separator].intercalate (cut separator .start text) := infix_of_mem_intercalate among
  rw [intercalate_cut] at inside
  exact (infix_trim raw).trans inside

theorem trim_ne_nil_of_mem_split {separator : Char} {text piece : List Char}
    (member : piece ∈ split separator text) : trim piece ≠ [] := by
  rw [trim_eq_of_mem_split member]
  exact (trimmed_of_mem_split member).2

end PipeQuery.Text
