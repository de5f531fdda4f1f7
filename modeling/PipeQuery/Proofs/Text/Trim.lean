import Mathlib.Data.List.DropRight
import PipeQuery.Text.Blank

/-!
# Trimming

Trimming takes blanks off both ends and nothing else, so blanks around a text make no difference to what
is left of it, and what is left stays as it is.
-/

set_option autoImplicit false

namespace PipeQuery.Text

/-- Every character of the text is blank. -/
def AllBlank (text : List Char) : Prop :=
  ∀ c ∈ text, isBlank c = true

theorem allBlank_nil : AllBlank [] := by simp [AllBlank]

theorem allBlank_space : AllBlank [' '] := by simp [AllBlank, isBlank]

/-- The text neither starts nor ends with a blank. -/
structure Trimmed (text : List Char) : Prop where
  first : ∀ c ∈ text.head?, isBlank c = false
  last : ∀ c ∈ text.getLast?, isBlank c = false

theorem trimmed_of_unblank {text : List Char} (unblank : ∀ c ∈ text, isBlank c = false) : Trimmed text :=
  ⟨fun c first => unblank c (List.mem_of_mem_head? first),
    fun c last => unblank c (List.mem_of_mem_getLast? last)⟩

theorem trimEnd_eq_rdropWhile (text : List Char) : trimEnd text = text.rdropWhile isBlank := rfl

theorem trimStart_blank_append {blanks : List Char} (blank : AllBlank blanks) (text : List Char) :
    trimStart (blanks ++ text) = trimStart text :=
  List.dropWhile_append_of_pos blank

theorem trimEnd_append_blank {blanks : List Char} (blank : AllBlank blanks) (text : List Char) :
    trimEnd (text ++ blanks) = trimEnd text := by
  have reversed : ∀ c ∈ blanks.reverse, isBlank c = true := fun c member =>
    blank c (List.mem_reverse.mp member)
  simp only [trimEnd, List.reverse_append, List.dropWhile_append_of_pos reversed]

theorem trimStart_eq_nil_iff {text : List Char} : trimStart text = [] ↔ AllBlank text :=
  List.dropWhile_eq_nil_iff

@[simp] theorem trim_nil : trim [] = [] := rfl

theorem trim_blank_append {blanks : List Char} (blank : AllBlank blanks) (text : List Char) :
    trim (blanks ++ text) = trim text := by
  rw [trim, trimStart_blank_append blank, trim]

theorem trim_append_blank {blanks : List Char} (blank : AllBlank blanks) (text : List Char) :
    trim (text ++ blanks) = trim text := by
  have start : trimStart (text ++ blanks) =
      if (trimStart text).isEmpty then trimStart blanks else trimStart text ++ blanks :=
    List.dropWhile_append
  rw [trim, start, trim]
  split
  · next empty =>
      rw [trimStart_eq_nil_iff.mpr blank, List.isEmpty_iff.mp empty]
  · exact trimEnd_append_blank blank _

theorem trim_eq_nil_iff {text : List Char} : trim text = [] ↔ AllBlank text := by
  constructor
  · intro empty
    apply trimStart_eq_nil_iff.mp
    by_contra rest
    -- What `trimStart` leaves begins with a character that is not blank, and `trimEnd` keeps it.
    have allBlank : ∀ c ∈ trimStart text, isBlank c = true := List.rdropWhile_eq_nil_iff.mp empty
    have first := List.head_dropWhile_not isBlank rest
    have blank := allBlank _ (List.head_mem rest)
    simp only [trimStart] at blank
    simp [blank] at first
  · intro blank
    rw [trim, trimStart_eq_nil_iff.mpr blank]
    rfl

theorem trimEnd_append_cons {c : Char} (unblank : isBlank c = false) (left right : List Char) :
    trimEnd (left ++ c :: right) = left ++ c :: trimEnd right := by
  have reversed : (left ++ c :: right).reverse = right.reverse ++ c :: left.reverse := by simp
  rw [trimEnd, reversed, List.dropWhile_append]
  split
  next empty => simp [trimEnd, List.isEmpty_iff.mp empty, unblank]
  next => simp [trimEnd]

/-- In front of a last character that is no blank only blanks at the start are cut off. -/
theorem trim_concat {c : Char} (unblank : isBlank c = false) (text : List Char) :
    trim (text ++ [c]) = trimStart text ++ [c] := by
  have start : trimStart (text ++ [c]) = trimStart text ++ [c] := by
    simp only [trimStart, List.dropWhile_append]
    split
    next empty => simp [List.isEmpty_iff.mp empty, unblank]
    next => rfl
  rw [trim, start]
  exact trimEnd_append_cons unblank (trimStart text) []

theorem mem_trimEnd_of_unblank {text : List Char} {c : Char} (member : c ∈ text)
    (unblank : isBlank c = false) : c ∈ trimEnd text := by
  rw [← List.rdropWhile_append_rtakeWhile (p := isBlank) (l := text)] at member
  rcases List.mem_append.mp member with kept | cut
  · exact kept
  · simp [List.mem_rtakeWhile_imp cut] at unblank

theorem exists_blanks_around_trim (text : List Char) :
    ∃ leading trailing, AllBlank leading ∧ AllBlank trailing ∧
      text = leading ++ trim text ++ trailing := by
  refine ⟨text.takeWhile isBlank, (trimStart text).rtakeWhile isBlank, ?_, ?_, ?_⟩
  · exact fun c member => List.mem_takeWhile_imp member
  · exact fun c member => List.mem_rtakeWhile_imp member
  · rw [List.append_assoc, trim, trimEnd_eq_rdropWhile, List.rdropWhile_append_rtakeWhile,
      trimStart, List.takeWhile_append_dropWhile]

theorem Trimmed.trim_eq {text : List Char} (trimmed : Trimmed text) : trim text = text := by
  have start : trimStart text = text := by
    cases text with
    | nil => rfl
    | cons c rest => simp [trimStart, trimmed.first c rfl]
  rw [trim, start, trimEnd_eq_rdropWhile, List.rdropWhile_eq_self_iff]
  intro nonempty
  simp [trimmed.last _ (List.getLast?_eq_some_getLast nonempty)]

theorem trimmed_trim (text : List Char) : Trimmed (trim text) := by
  constructor
  · intro c first
    have inside : trim text <+: trimStart text := List.rdropWhile_prefix _ _
    obtain ⟨tail, whole⟩ := inside
    have start : (trimStart text).head? = some c := by
      rw [← whole, List.head?_append, Option.mem_def.mp first]
      rfl
    have unblank := List.head?_dropWhile_not isBlank text
    simp only [trimStart] at start
    simpa [start] using unblank
  · intro c last
    have nonempty : trim text ≠ [] := by
      intro empty
      simp [empty] at last
    have unblank := List.rdropWhile_last_not isBlank (trimStart text) nonempty
    rw [Option.mem_def, List.getLast?_eq_some_getLast nonempty, Option.some.injEq] at last
    subst last
    exact Bool.not_eq_true _ ▸ unblank

theorem trim_trimEnd (text : List Char) : trim (trimEnd text) = trim text := by
  have blank : AllBlank (text.rtakeWhile isBlank) := fun c member => List.mem_rtakeWhile_imp member
  rw [← trim_append_blank blank, trimEnd_eq_rdropWhile, List.rdropWhile_append_rtakeWhile]

theorem Trimmed.trimStart_append {text : List Char} (trimmed : Trimmed text) (nonempty : text ≠ [])
    (rest : List Char) : trimStart (text ++ rest) = text ++ rest := by
  cases text with
  | nil => exact absurd rfl nonempty
  | cons c text => simp [trimStart, trimmed.first c rfl]

@[simp] theorem trim_trim (text : List Char) : trim (trim text) = trim text :=
  (trimmed_trim text).trim_eq

end PipeQuery.Text
