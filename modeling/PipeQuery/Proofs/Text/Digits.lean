import Mathlib.Tactic.Ring
import PipeQuery.Proofs.Text.Character

/-!
# Decimal digits read back

What is written in decimal digits reads back as the number it was written for, with leading zeros or
without, and a text with any other character in it is no number.
-/

set_option autoImplicit false

namespace PipeQuery.Text

theorem digitValue?_ten (c : Char) :
    digitValue? 10 c = if isDigit c then some (c.toNat - '0'.toNat) else none := by
  have digit : isDigit c = true ↔ '0' ≤ c ∧ c ≤ '9' := by simp [isDigit]
  by_cases decimal : '0' ≤ c ∧ c ≤ '9'
  · have upper : c.toNat ≤ 48 + 9 := decimal.2
    have below : c.toNat - 48 < 10 := by omega
    simp [digitValue?, decimal, digit.mpr decimal, below]
  · have letter : isDigit c = false := by simpa [isDigit] using fun lower => by simpa [lower] using decimal
    simp only [digitValue?, if_neg decimal, letter, Bool.false_eq_true, ↓reduceIte]
    split
    · simp
    · split <;> simp

theorem natOfDigits_eq_ofDigitChars (digits : List Char) :
    natOfDigits digits = Nat.ofDigitChars 10 digits 0 := by
  simp only [natOfDigits, Nat.ofDigitChars_eq_foldl, Nat.mul_comm]

theorem natOfDigits_append (left right : List Char) :
    natOfDigits (left ++ right) = natOfDigits left * 10 ^ right.length + natOfDigits right := by
  rw [natOfDigits_eq_ofDigitChars, Nat.ofDigitChars_append, Nat.ofDigitChars_eq_ofDigitChars_zero,
    natOfDigits_eq_ofDigitChars, natOfDigits_eq_ofDigitChars, Nat.mul_comm]

@[simp] theorem natOfDigits_replicate_zero (count : Nat) :
    natOfDigits (List.replicate count '0') = 0 := by
  simp [natOfDigits_eq_ofDigitChars]

/-! ## Reading -/

theorem takeWhile_digits {digits : List Char} (rest : List Char)
    (decimal : ∀ c ∈ digits, isDigit c = true)
    (ends : ∀ c ∈ rest.head?, isDigit c = false) : (digits ++ rest).takeWhile isDigit = digits := by
  rw [List.takeWhile_append_of_pos decimal]
  cases rest with
  | nil => simp
  | cons c rest => simp [ends c rfl]

theorem dropWhile_digits {digits : List Char} (rest : List Char)
    (decimal : ∀ c ∈ digits, isDigit c = true)
    (ends : ∀ c ∈ rest.head?, isDigit c = false) : (digits ++ rest).dropWhile isDigit = rest := by
  rw [List.dropWhile_append_of_pos decimal]
  cases rest with
  | nil => rfl
  | cons c rest => simp [ends c rfl]

theorem readNat?_ten {digits : List Char} (nonempty : digits ≠ [])
    (decimal : ∀ c ∈ digits, isDigit c = true) : readNat? 10 digits = some (natOfDigits digits) := by
  have step : ∀ (rest : List Char) (value : Nat), (∀ c ∈ rest, isDigit c = true) →
      rest.foldlM (fun value c => (digitValue? 10 c).map (value * 10 + ·)) value =
        some (rest.foldl (fun value c => value * 10 + (c.toNat - '0'.toNat)) value) := by
    intro rest
    induction rest with
    | nil => intros; rfl
    | cons c rest ih =>
        intro value decimal
        rw [List.foldlM_cons, digitValue?_ten, if_pos (decimal c List.mem_cons_self)]
        exact ih _ fun d member => decimal d (List.mem_cons_of_mem _ member)
  rw [readNat?, if_neg (by simpa using nonempty), step digits 0 decimal, natOfDigits]

theorem readNat?_ten_eq_none {text : List Char} {c : Char} (member : c ∈ text)
    (other : isDigit c = false) : readNat? 10 text = none := by
  have step : ∀ (rest : List Char) (value : Nat), c ∈ rest →
      rest.foldlM (fun value c => (digitValue? 10 c).map (value * 10 + ·)) value = none := by
    intro rest
    induction rest with
    | nil => intro _ absurd; cases absurd
    | cons d rest ih =>
        intro value member
        rw [List.foldlM_cons]
        rcases List.mem_cons.mp member with rfl | member
        · simp [digitValue?_ten, other]
        · cases digitValue? 10 d with
          | none => rfl
          | some digit => exact ih _ member
  rw [readNat?]
  split
  · rfl
  · exact step text 0 member

/-! ## Writing -/

theorem isDigit_of_mem_natDigits {value : Nat} {c : Char} (member : c ∈ natDigits value) :
    isDigit c = true := by
  rw [isDigit_eq_char_isDigit]
  exact Nat.isDigit_of_mem_toDigits (by decide) (by decide) member

@[simp] theorem natDigits_ne_nil (value : Nat) : natDigits value ≠ [] :=
  Nat.toDigits_ne_nil

@[simp] theorem natOfDigits_natDigits (value : Nat) : natOfDigits (natDigits value) = value := by
  rw [natOfDigits_eq_ofDigitChars, natDigits, Nat.ofDigitChars_ten_toDigits]

theorem readNat?_natDigits (value : Nat) : readNat? 10 (natDigits value) = some value := by
  rw [readNat?_ten (natDigits_ne_nil value) fun c member => isDigit_of_mem_natDigits member,
    natOfDigits_natDigits]

theorem isDigit_of_mem_paddedDigits {width value : Nat} {c : Char}
    (member : c ∈ paddedDigits width value) : isDigit c = true := by
  rcases List.mem_append.mp member with zero | digit
  · rw [List.eq_of_mem_replicate zero]
    rfl
  · exact isDigit_of_mem_natDigits digit

@[simp] theorem natOfDigits_paddedDigits (width value : Nat) :
    natOfDigits (paddedDigits width value) = value := by
  simp [paddedDigits, natOfDigits_append]

theorem length_paddedDigits {width value : Nat} (positive : 0 < width) (fits : value < 10 ^ width) :
    (paddedDigits width value).length = width := by
  have short : (natDigits value).length ≤ width :=
    (Nat.length_toDigits_le_iff (by decide) positive).mpr fits
  simp only [paddedDigits, List.length_append, List.length_replicate]
  omega

/-! ## Signs -/

theorem takeSign_of_ne {c : Char} (plus : c ≠ '+') (minus : c ≠ '-') (rest : List Char) :
    takeSign (c :: rest) = (false, c :: rest) := by
  unfold takeSign
  split
  · next same => cases same; exact absurd rfl plus
  · next same => cases same; exact absurd rfl minus
  · rfl

theorem takeSign_of_digit {c : Char} (digit : isDigit c = true) (rest : List Char) :
    takeSign (c :: rest) = (false, c :: rest) := by
  have unsigned : c ∉ ['+', '-'] := not_mem_of_class digit rfl
  simp only [List.mem_cons, List.not_mem_nil, or_false, not_or] at unsigned
  exact takeSign_of_ne unsigned.1 unsigned.2 rest

theorem takeSign_natDigits_append (value : Nat) (rest : List Char) :
    takeSign (natDigits value ++ rest) = (false, natDigits value ++ rest) := by
  cases digits : natDigits value with
  | nil => exact absurd digits (natDigits_ne_nil value)
  | cons c more =>
      apply takeSign_of_digit
      exact isDigit_of_mem_natDigits (by rw [digits]; exact List.mem_cons_self)

theorem isNumeral_of_mem_intDigits {value : Int} {c : Char} (member : c ∈ intDigits value) :
    isNumeral c = true := by
  unfold intDigits at member
  split at member
  · rcases List.mem_cons.mp member with rfl | member
    · decide
    · exact isNumeral_of_isDigit (isDigit_of_mem_natDigits member)
  · exact isNumeral_of_isDigit (isDigit_of_mem_natDigits member)

theorem readInt?_intDigits (value : Int) : readInt? (intDigits value) = some value := by
  by_cases negative : value < 0
  · have magnitude : -(value.natAbs : Int) = value := by omega
    simp only [readInt?, intDigits, if_pos negative, takeSign, readNat?_natDigits, ↓reduceIte]
    exact congrArg some magnitude
  · have magnitude : (value.natAbs : Int) = value := by omega
    have unsigned := takeSign_natDigits_append value.natAbs []
    rw [List.append_nil] at unsigned
    simp only [readInt?, intDigits, if_neg negative, unsigned, readNat?_natDigits,
      Bool.false_eq_true, ↓reduceIte]
    exact congrArg some magnitude

/-- A text with a character after its first one that is no digit is no integer. -/
theorem readInt?_eq_none {first c : Char} {rest : List Char} (member : c ∈ rest)
    (other : isDigit c = false) : readInt? (first :: rest) = none := by
  have unreadable : ∀ text, c ∈ text → readNat? 10 text = none := fun text inside =>
    readNat?_ten_eq_none inside other
  simp only [readInt?]
  unfold takeSign
  split
  · next same =>
      cases same
      simp [unreadable _ member]
  · next same =>
      cases same
      simp [unreadable _ member]
  · simp [unreadable _ (List.mem_cons_of_mem _ member)]

end PipeQuery.Text
