import PipeQuery.Text.Blank
import PipeQuery.Text.Digits
import PipeQuery.Text.Scan
import PipeQuery.Text.Word

/-!
# Classes of characters

What the classes of characters that the readers look for have to do with each other: no blank and no
character of a word, number or date means anything to a scan.
-/

set_option autoImplicit false

namespace PipeQuery.Text

variable {c : Char}

theorem not_mem_of_class {isMember : Char → Bool} (member : isMember c = true) {others : List Char}
    (unlike : others.all (fun other => !isMember other) = true) : c ∉ others := by
  intro among
  have outside := List.all_eq_true.mp unlike c among
  simp [member] at outside

/-! ## Characters with a meaning -/

theorem isQuote_iff : isQuote c = true ↔ c = '"' ∨ c = '\'' := by
  simp [isQuote]

theorem isOpening_iff : isOpening c = true ↔ c = '[' ∨ c = '{' ∨ c = '(' := by
  simp [isOpening, or_assoc]

theorem isClosing_iff : isClosing c = true ↔ c = ']' ∨ c = '}' ∨ c = ')' := by
  simp [isClosing, or_assoc]

/-- A character that no scan reacts to outside of an escape: no backslash, quote or bracket. -/
def isOrdinary (c : Char) : Bool :=
  c != '\\' && !isQuote c && !isOpening c && !isClosing c

/-- The characters that a scan reacts to. -/
def marks : List Char := ['\\', '"', '\'', '[', '{', '(', ']', '}', ')']

theorem isOrdinary_iff : isOrdinary c = true ↔ c ∉ marks := by
  simp [isOrdinary, isQuote, isOpening, isClosing, marks, and_assoc]

theorem mem_marks_of_isQuote (quote : isQuote c = true) : c ∈ marks := by
  rcases isQuote_iff.mp quote with rfl | rfl <;> decide

theorem mem_marks_of_isOpening (opening : isOpening c = true) : c ∈ marks := by
  rcases isOpening_iff.mp opening with rfl | rfl | rfl <;> decide

theorem mem_marks_of_isClosing (closing : isClosing c = true) : c ∈ marks := by
  rcases isClosing_iff.mp closing with rfl | rfl | rfl <;> decide

theorem isOrdinary_of_isBlank (blank : isBlank c = true) : isOrdinary c = true :=
  isOrdinary_iff.mpr (not_mem_of_class blank rfl)

theorem isBlank_of_mem_marks (mark : c ∈ marks) : isBlank c = false := by
  cases blank : isBlank c with
  | false => rfl
  | true => exact absurd mark (isOrdinary_iff.mp (isOrdinary_of_isBlank blank))

theorem isDigit_of_mem_marks (mark : c ∈ marks) : isDigit c = false := by
  cases digit : isDigit c with
  | false => rfl
  | true => exact absurd mark (not_mem_of_class digit rfl)

/-! ## Characters of words, numbers and dates -/

/-- The characters that numbers are written with. -/
def isNumeral (c : Char) : Bool :=
  isDigit c || c == '.' || c == 'e' || c == '-'

/-- The characters of words, numbers and dates. -/
def isPlain (c : Char) : Bool :=
  isWordPart c || c == '.' || c == '-' || c == ':'

theorem isDigit_eq_char_isDigit (c : Char) : isDigit c = c.isDigit := by
  simp only [isDigit, Char.isDigit, Char.le_def, ge_iff_le]

theorem isNumeral_of_isDigit (digit : isDigit c = true) : isNumeral c = true := by
  simp [isNumeral, digit]

theorem isPlain_of_isWordPart (part : isWordPart c = true) : isPlain c = true := by
  simp [isPlain, part]

theorem isPlain_of_isDigit (digit : isDigit c = true) : isPlain c = true := by
  rw [isDigit_eq_char_isDigit] at digit
  simp [isPlain, isWordPart, Char.isAlphanum, digit]

theorem isPlain_of_isNumeral (numeral : isNumeral c = true) : isPlain c = true := by
  simp only [isNumeral, Bool.or_eq_true, beq_iff_eq] at numeral
  rcases numeral with ((digit | rfl) | rfl) | rfl
  · exact isPlain_of_isDigit digit
  all_goals rfl

theorem isOrdinary_of_isPlain (plain : isPlain c = true) : isOrdinary c = true :=
  isOrdinary_iff.mpr (not_mem_of_class plain rfl)

theorem toNat_of_isUpper (upper : c.isUpper = true) : 65 ≤ c.toNat ∧ c.toNat ≤ 90 :=
  of_decide_eq_true upper

theorem toNat_of_isLower (lower : c.isLower = true) : 97 ≤ c.toNat ∧ c.toNat ≤ 122 :=
  (Bool.and_eq_true_iff.mp lower).imp of_decide_eq_true of_decide_eq_true

theorem toNat_of_isDigit (digit : isDigit c = true) : 48 ≤ c.toNat ∧ c.toNat ≤ 57 :=
  (Bool.and_eq_true_iff.mp digit).imp of_decide_eq_true of_decide_eq_true

theorem isWordPart_cases (part : isWordPart c = true) :
    (c.isUpper = true ∨ c.isLower = true) ∨ isDigit c = true ∨ c = '_' := by
  rcases Bool.or_eq_true_iff.mp part with alphanumeric | underscore
  · rcases Bool.or_eq_true_iff.mp alphanumeric with letter | digit
    · exact .inl (Bool.or_eq_true_iff.mp letter)
    · exact .inr (.inl ((isDigit_eq_char_isDigit c).trans digit))
  · exact .inr (.inr (beq_iff_eq.mp underscore))

theorem toNat_of_isPlain (plain : isPlain c = true) : 45 ≤ c.toNat ∧ c.toNat ≤ 122 := by
  simp only [isPlain, Bool.or_eq_true, beq_iff_eq] at plain
  rcases plain with ((part | rfl) | rfl) | rfl
  · rcases isWordPart_cases part with (upper | lower) | digit | rfl
    · have bounds := toNat_of_isUpper upper
      omega
    · have bounds := toNat_of_isLower lower
      omega
    · have bounds := toNat_of_isDigit digit
      omega
    · decide
  all_goals decide

theorem isBlank_of_isPlain (plain : isPlain c = true) : isBlank c = false := by
  obtain ⟨lower, upper⟩ := toNat_of_isPlain plain
  simp only [isBlank, Bool.or_eq_false_iff, Bool.and_eq_false_iff, decide_eq_false_iff_not,
    beq_eq_false_iff_ne]
  omega

/-! ## Words -/

theorem isWordPart_of_mem_word {word : List Char} (isWord : Text.isWord word = true) :
    ∀ c ∈ word, isWordPart c = true := by
  cases word with
  | nil => simp
  | cons first rest =>
      simp only [Text.isWord, isWordStart, Bool.and_eq_true, Bool.or_eq_true, List.all_eq_true] at isWord
      have start : isWordPart first = true := by
        rcases isWord.1 with letter | underscore
        · simp [isWordPart, Char.isAlphanum, letter]
        · simp [isWordPart, underscore]
      exact List.forall_mem_cons.mpr ⟨start, isWord.2⟩

end PipeQuery.Text
