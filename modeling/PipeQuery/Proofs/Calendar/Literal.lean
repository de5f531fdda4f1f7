import PipeQuery.Calendar.Literal
import PipeQuery.Proofs.Calendar.Instant
import PipeQuery.Proofs.Text.Piece

/-!
# Date literals

The display text of an instant is a date literal that denotes the instant. No date literal starts with
a bracket, or with a zero and a letter.
-/

set_option autoImplicit false

namespace PipeQuery

open Text Calendar

/-! ## Texts of instants -/

theorem Text.isPlain_of_mem_paddedDigits {width value : Nat} :
    ∀ c ∈ paddedDigits width value, isPlain c = true :=
  fun _ member => isPlain_of_isDigit (isDigit_of_mem_paddedDigits member)

theorem Instant.isPlain_of_mem_fractionText {nanos : Nat} : ∀ c ∈ fractionText nanos, isPlain c = true := by
  intro c member
  unfold fractionText at member
  split at member
  · cases member
  split at member
  · rcases List.mem_cons.mp member with rfl | member
    · rfl
    · exact isPlain_of_mem_paddedDigits c member
  split at member
  · rcases List.mem_cons.mp member with rfl | member
    · rfl
    · exact isPlain_of_mem_paddedDigits c member
  · rcases List.mem_cons.mp member with rfl | member
    · rfl
    · exact isPlain_of_mem_paddedDigits c member

theorem Calendar.isPlain_of_mem_stamp {year month day hour minute second nanos : Nat} :
    ∀ c ∈ stamp year month day hour minute second nanos, isPlain c = true := by
  simp only [stamp, List.forall_mem_append, List.forall_mem_cons]
  exact ⟨isPlain_of_mem_paddedDigits, rfl, isPlain_of_mem_paddedDigits, rfl, isPlain_of_mem_paddedDigits,
    rfl, isPlain_of_mem_paddedDigits, rfl, isPlain_of_mem_paddedDigits, rfl, isPlain_of_mem_paddedDigits,
    Instant.isPlain_of_mem_fractionText, rfl, by simp⟩

theorem Instant.isPlain_of_mem_text {instant : Instant} (year : instant.InFourDigitYear) :
    ∀ c ∈ instant.text, isPlain c = true := by
  rw [text_eq_stamp year]
  exact isPlain_of_mem_stamp

/-- The text of an instant starts with the four digits of its year and a hyphen. -/
theorem Instant.text_start {instant : Instant} (year : instant.InFourDigitYear) :
    ∃ first second whole rest, instant.text = first :: second :: whole ++ '-' :: rest ∧
      ∀ c ∈ first :: second :: whole, isDigit c = true := by
  obtain ⟨early, late⟩ := id year
  have length := length_paddedDigits (show 0 < 4 by decide)
    (show (Date.ofDayNumber (instant.seconds / daySeconds)).year.natAbs < 10 ^ 4 by omega)
  rw [text_eq_stamp year, stamp]
  cases digits : paddedDigits 4 (Date.ofDayNumber (instant.seconds / daySeconds)).year.natAbs with
  | nil => simp [digits] at length
  | cons first tail =>
      cases tail with
      | nil => simp [digits] at length
      | cons second whole =>
          refine ⟨first, second, whole, _, rfl, fun c member => ?_⟩
          rw [← digits] at member
          exact isDigit_of_mem_paddedDigits member

theorem Instant.piece_text {instant : Instant} (year : instant.InFourDigitYear) :
    Piece ',' instant.text := by
  obtain ⟨first, second, whole, rest, shape, -⟩ := text_start year
  exact .plain rfl (isPlain_of_mem_text year) (by rw [shape]; simp)

theorem Calendar.ofLiteral?_text {instant : Instant} (legible : instant.Legible) :
    ofLiteral? instant.text = some instant := by
  rw [ofLiteral?, (Instant.piece_text legible.year).trimmed.trim_eq, timestamp?_text legible, Option.some_or]

/-! ## Texts that are no dates -/

theorem Calendar.takeNumber_eq_none {least : Nat} (positive : 0 < least) (most : Nat) {first : Char}
    (rest : List Char) (other : isDigit first = false) : takeNumber least most (first :: rest) = none := by
  have digits : ((first :: rest).take most).takeWhile isDigit = [] := by
    cases most <;> simp [other]
  simp only [takeNumber, digits, List.length_nil, positive, if_true]

theorem Calendar.takeName?_weekdayNames_eq_none {first : Char}
    (letters : first.toLower = first ∧ ∀ name ∈ weekdayNames, name.toList.head? ≠ some first)
    (rest : List Char) : takeName? weekdayNames (first :: rest) = none := by
  have absent : String.ofList (((first :: rest).take 3).map Char.toLower) ∉ weekdayNames := by
    intro member
    apply letters.2 _ member
    rw [String.toList_ofList, List.take_succ_cons, List.map_cons, List.head?_cons, letters.1]
  rw [takeName?, List.idxOf?_eq_none_iff.mpr absent]
  rfl

theorem Calendar.plainDateTime?_eq_none {text : List Char} (dateless : takeDate text = none)
    (takeSeparator : List Char → Option (List Char)) (withSeconds : Bool) :
    plainDateTime? takeSeparator withSeconds text = none := by
  rw [plainDateTime?, dateless]
  rfl

/-- What starts with no date and is no Internet date is no date literal. -/
theorem Calendar.ofLiteral?_eq_none {text : List Char} (trimmed : Trimmed text)
    (stamp : timestamp? text = none) (mail : mailDate? text = none) (dateless : takeDate text = none) :
    ofLiteral? text = none := by
  have plain : plainDate? text = none := by
    rw [plainDate?, dateless]
    rfl
  have zoneless : zonelessDateTime? text = none := by
    simp only [zonelessDateTime?, plainDateTime?_eq_none dateless, Option.none_or]
  simp only [ofLiteral?, trimmed.trim_eq, stamp, mail, zoneless, plain, Option.none_or]

section Opening

variable {first : Char} {rest : List Char}

theorem Calendar.takeDate_eq_none (opening : isOpening first = true) (trimmed : Trimmed (first :: rest)) :
    takeDate (first :: rest) = none := by
  have start : trimStart (first :: rest) = first :: rest := by simp [trimStart, trimmed.first first rfl]
  have year : takeYear (first :: rest) = none := by
    simp only [takeYear, start]
    split
    · next same => cases same; cases opening
    · next same => cases same; cases opening
    · rw [takeNumber_eq_none (by decide) 4 rest (isDigit_of_mem_marks (mem_marks_of_isOpening opening))]
      rfl
  rw [takeDate, year]
  rfl

theorem Calendar.mailDate?_eq_none (opening : isOpening first = true) (trimmed : Trimmed (first :: rest)) :
    mailDate? (first :: rest) = none := by
  have start : trimStart (first :: rest) = first :: rest := by simp [trimStart, trimmed.first first rfl]
  have letters : first.toLower = first ∧ ∀ name ∈ weekdayNames, name.toList.head? ≠ some first := by
    rcases isOpening_iff.mp opening with rfl | rfl | rfl <;> decide
  have weekday : takeWeekday (first :: rest) = some (none, first :: rest) := by
    rw [takeWeekday, takeName?_weekdayNames_eq_none letters]
  have day : takeNumber 1 2 (trimStart (first :: rest)) = none := by
    rw [start, takeNumber_eq_none (by decide) 2 rest (isDigit_of_mem_marks (mem_marks_of_isOpening opening))]
  rw [mailDate?, start, weekday, Option.bind_eq_bind, Option.bind_some]
  show (takeNumber 1 2 (trimStart (first :: rest))).bind _ = none
  rw [day, Option.bind_none]

theorem Calendar.ofLiteral?_eq_none_of_opening (opening : isOpening first = true)
    (trimmed : Trimmed (first :: rest)) : ofLiteral? (first :: rest) = none := by
  have stamp : timestamp? (first :: rest) = none := by
    rw [timestamp?, takeNumber_eq_none (by decide) 4 rest (isDigit_of_mem_marks (mem_marks_of_isOpening opening))]
    rfl
  exact ofLiteral?_eq_none trimmed stamp (mailDate?_eq_none opening trimmed)
    (takeDate_eq_none opening trimmed)

end Opening

section Zero

variable {letter : Char} {rest : List Char}

theorem Calendar.takeNumber_zero (other : isDigit letter = false) (least most : Nat) :
    takeNumber least (most + 1) ('0' :: letter :: rest) =
      if 1 < least then none else some (0, letter :: rest) := by
  have digits : (('0' :: letter :: rest).take (most + 1)).takeWhile isDigit = ['0'] := by
    have zero : isDigit '0' = true := rfl
    cases most <;> simp [zero, other]
  simp only [takeNumber, digits]
  rfl

theorem Calendar.trimStart_zero (rest : List Char) : trimStart ('0' :: rest) = '0' :: rest := rfl

theorem Calendar.takeDate_eq_none_of_zero (other : isDigit letter = false) (noHyphen : letter ≠ '-') :
    takeDate ('0' :: letter :: rest) = none := by
  have year : takeYear ('0' :: letter :: rest) = some (0, letter :: rest) := by
    rw [takeYear, trimStart_zero]
    show (takeNumber 1 4 ('0' :: letter :: rest)).map _ = _
    rw [takeNumber_zero other]
    rfl
  rw [takeDate, year]
  simp [takeChar, noHyphen]

theorem Calendar.mailDate?_eq_none_of_zero (other : isDigit letter = false)
    (unblank : isBlank letter = false) : mailDate? ('0' :: letter :: rest) = none := by
  have weekday : takeWeekday ('0' :: letter :: rest) = some (none, '0' :: letter :: rest) := by
    rw [takeWeekday, takeName?_weekdayNames_eq_none (by decide)]
  have noBlanks : takeBlanks (letter :: rest) = none := by
    simp [takeBlanks, trimStart, unblank]
  rw [mailDate?, trimStart_zero, weekday, Option.bind_eq_bind, Option.bind_some]
  show (takeNumber 1 2 ('0' :: letter :: rest)).bind _ = none
  rw [takeNumber_zero other]
  show (takeBlanks (letter :: rest)).bind _ = none
  rw [noBlanks, Option.bind_none]

/-- A zero does not start a date if what follows it is no digit, no hyphen and no blank. -/
theorem Calendar.ofLiteral?_eq_none_of_zero (other : isDigit letter = false) (noHyphen : letter ≠ '-')
    (unblank : isBlank letter = false) (trimmed : Trimmed ('0' :: letter :: rest)) :
    ofLiteral? ('0' :: letter :: rest) = none := by
  have stamp : timestamp? ('0' :: letter :: rest) = none := by
    rw [timestamp?, takeNumber_zero other]
    rfl
  exact ofLiteral?_eq_none trimmed stamp (mailDate?_eq_none_of_zero other unblank)
    (takeDate_eq_none_of_zero other noHyphen)

end Zero

end PipeQuery
