import Mathlib.Data.List.Induction
import PipeQuery.Proofs.Text.Digits

/-!
# Numerals

A numeral is a text of digits in a positional base, the weightiest digit first. Up to base sixteen a text
reads as a number if and only if it is a numeral of the number, so reading accepts letters of either case
and zeros in front, and nothing else.
-/

set_option autoImplicit false

namespace PipeQuery.Text

/-- The character is the digit of the base, a letter in either case. -/
def IsDigitOf (base : Nat) (c : Char) (digit : Nat) : Prop :=
  digit < base ∧ (c = Nat.digitChar digit ∨ c = (Nat.digitChar digit).toUpper)

/-- The text is written in digits of the base and stands for the number. Zeros in front change nothing. -/
inductive Numeral (base : Nat) : List Char → Nat → Prop where
  | digit {c : Char} {digit : Nat} : IsDigitOf base c digit → Numeral base [c] digit
  | append {text : List Char} {value : Nat} {c : Char} {digit : Nat} :
      Numeral base text value → IsDigitOf base c digit →
      Numeral base (text ++ [c]) (value * base + digit)

/-- The text is a decimal numeral after at most one sign and stands for the integer. -/
inductive SignedNumeral : List Char → Int → Prop where
  | unsigned {text : List Char} {value : Nat} : Numeral 10 text value → SignedNumeral text value
  | plus {text : List Char} {value : Nat} : Numeral 10 text value → SignedNumeral ('+' :: text) value
  | minus {text : List Char} {value : Nat} : Numeral 10 text value → SignedNumeral ('-' :: text) (-value)

section Base

variable {base : Nat} {text : List Char} {value digit : Nat} {c : Char}

/-! ## Digits -/

/-- A digit of a base up to sixteen is a hexadecimal digit of a value below the base. -/
theorem digitValue?_eq_some_iff_hexadecimal (small : base ≤ 16) :
    digitValue? base c = some digit ↔ digitValue? 16 c = some digit ∧ digit < base := by
  simp only [digitValue?, Option.filter_eq_some_iff, decide_eq_true_eq]
  constructor
  · rintro ⟨found, below⟩
    exact ⟨⟨found, by omega⟩, below⟩
  · rintro ⟨⟨found, -⟩, below⟩
    exact ⟨found, below⟩

theorem digitValue?_digitChar : ∀ digit < 16, digitValue? 16 (Nat.digitChar digit) = some digit ∧
    digitValue? 16 (Nat.digitChar digit).toUpper = some digit := by
  decide

theorem toNat_digitChar_letter : ∀ digit < 16, 10 ≤ digit →
    (Nat.digitChar digit).toNat = digit + 87 ∧ (Nat.digitChar digit).toUpper.toNat = digit + 55 := by
  decide

theorem isDigitOf_of_digitValue? (found : digitValue? 16 c = some digit) : IsDigitOf 16 c digit := by
  obtain ⟨found, below⟩ := Option.filter_eq_some_iff.mp found
  have below : digit < 16 := of_decide_eq_true below
  refine ⟨below, ?_⟩
  simp only [← Char.toNat_inj]
  -- The three runs of characters that have a value: decimal digits, small letters and capital letters.
  split at found
  next decimal =>
    obtain ⟨lower, upper⟩ : 48 ≤ c.toNat ∧ c.toNat ≤ 57 := decimal
    have code : c.toNat - 48 = digit := Option.some.inj found
    exact .inl (by rw [Nat.toNat_digitChar_of_lt_ten (by omega)]; omega)
  split at found
  next letter =>
    obtain ⟨lower, upper⟩ : 97 ≤ c.toNat ∧ c.toNat ≤ 122 := letter
    have code : c.toNat - 97 + 10 = digit := Option.some.inj found
    exact .inl (by rw [(toNat_digitChar_letter digit below (by omega)).1]; omega)
  split at found
  next letter =>
    obtain ⟨lower, upper⟩ : 65 ≤ c.toNat ∧ c.toNat ≤ 90 := letter
    have code : c.toNat - 65 + 10 = digit := Option.some.inj found
    exact .inr (by rw [(toNat_digitChar_letter digit below (by omega)).2]; omega)
  next => cases found

theorem digitValue?_eq_some_iff (small : base ≤ 16) :
    digitValue? base c = some digit ↔ IsDigitOf base c digit := by
  rw [digitValue?_eq_some_iff_hexadecimal small]
  constructor
  · rintro ⟨found, below⟩
    exact ⟨below, (isDigitOf_of_digitValue? found).2⟩
  · rintro ⟨below, spelled⟩
    obtain ⟨small, capital⟩ := digitValue?_digitChar digit (by omega)
    refine ⟨?_, below⟩
    rcases spelled with rfl | rfl
    · exact small
    · exact capital

theorem not_isDigitOf_sign {sign : Char} (isSign : sign ∈ ['+', '-']) (small : base ≤ 16) :
    ¬ IsDigitOf base sign digit := by
  intro isDigit
  have found := (digitValue?_eq_some_iff_hexadecimal small).mp ((digitValue?_eq_some_iff small).mpr isDigit)
  simp only [List.mem_cons, List.not_mem_nil, or_false] at isSign
  rcases isSign with rfl | rfl
  · cases found.1
  · cases found.1

/-! ## Numerals -/

theorem readNat?_singleton (base : Nat) (c : Char) : readNat? base [c] = digitValue? base c := by
  cases found : digitValue? base c <;> simp [readNat?, found]

theorem readNat?_append_singleton (nonempty : text ≠ []) (c : Char) :
    readNat? base (text ++ [c]) =
      (readNat? base text).bind fun value => (digitValue? base c).map (value * base + ·) := by
  simp [readNat?, nonempty, List.foldlM_append]

theorem readNat?_of_numeral (small : base ≤ 16) (numeral : Numeral base text value) :
    readNat? base text = some value := by
  induction numeral with
  | digit isDigit => rw [readNat?_singleton, (digitValue?_eq_some_iff small).mpr isDigit]
  | @append text value c digit numeral isDigit read =>
      have nonempty : text ≠ [] := by
        rintro rfl
        cases read
      rw [readNat?_append_singleton nonempty, read, (digitValue?_eq_some_iff small).mpr isDigit]
      rfl

theorem numeral_of_readNat? (small : base ≤ 16) (read : readNat? base text = some value) :
    Numeral base text value := by
  induction text using List.reverseRecOn generalizing value with
  | nil => cases read
  | append_singleton text c ih =>
      by_cases empty : text = []
      · subst empty
        rw [List.nil_append, readNat?_singleton] at read
        exact .digit ((digitValue?_eq_some_iff small).mp read)
      · rw [readNat?_append_singleton empty] at read
        obtain ⟨before, readBefore, read⟩ := Option.bind_eq_some_iff.mp read
        obtain ⟨digit, found, rfl⟩ := Option.map_eq_some_iff.mp read
        exact .append (ih readBefore) ((digitValue?_eq_some_iff small).mp found)

theorem Numeral.exists_isDigitOf (numeral : Numeral base text value) (member : c ∈ text) :
    ∃ digit, IsDigitOf base c digit := by
  induction numeral with
  | digit isDigit =>
      obtain rfl := List.mem_singleton.mp member
      exact ⟨_, isDigit⟩
  | append _ isDigit ih =>
      rcases List.mem_append.mp member with before | last
      · exact ih before
      · obtain rfl := List.mem_singleton.mp last
        exact ⟨_, isDigit⟩

theorem Numeral.ne_nil (numeral : Numeral base text value) : text ≠ [] := by
  cases numeral <;> simp

theorem Numeral.isDigit (numeral : Numeral 10 text value) : ∀ c ∈ text, isDigit c = true := by
  intro c member
  obtain ⟨digit, spelled⟩ := numeral.exists_isDigitOf member
  have found := (digitValue?_eq_some_iff (by decide)).mpr spelled
  rw [digitValue?_ten, Option.ite_none_right_eq_some] at found
  exact found.1

theorem isBlank_digitChar : ∀ digit < 16, isBlank (Nat.digitChar digit) = false ∧
    isBlank (Nat.digitChar digit).toUpper = false := by
  decide

theorem Numeral.unblank (small : base ≤ 16) (numeral : Numeral base text value) :
    ∀ c ∈ text, isBlank c = false := by
  intro c member
  obtain ⟨digit, below, spelled⟩ := numeral.exists_isDigitOf member
  obtain ⟨lower, upper⟩ := isBlank_digitChar digit (by omega)
  rcases spelled with rfl | rfl
  · exact lower
  · exact upper

theorem toList_toString_nat (value : Nat) : (toString value).toList = natDigits value := by
  rw [Nat.toString_eq_repr, Nat.repr_eq_ofList_toDigits, String.toList_ofList, natDigits]

theorem numeral_natDigits (value : Nat) : Numeral 10 (natDigits value) value :=
  numeral_of_readNat? (by decide) (readNat?_natDigits value)

end Base

/-! ## Signs -/

section Signs

variable {text : List Char} {value : Int}

theorem readInt?_of_signedNumeral (numeral : SignedNumeral text value) : readInt? text = some value := by
  cases numeral with
  | @unsigned _ magnitude numeral =>
      have read := readNat?_of_numeral (by decide) numeral
      obtain ⟨first, rest, rfl⟩ := List.exists_cons_of_ne_nil numeral.ne_nil
      rw [readInt?, takeSign_of_digit (numeral.isDigit first List.mem_cons_self)]
      simp [read]
  | plus numeral => simp [readInt?, takeSign, readNat?_of_numeral (by decide) numeral]
  | minus numeral => simp [readInt?, takeSign, readNat?_of_numeral (by decide) numeral]

theorem SignedNumeral.unblank (numeral : SignedNumeral text value) : ∀ c ∈ text, isBlank c = false := by
  cases numeral with
  | unsigned numeral => exact numeral.unblank (by decide)
  | plus numeral => exact List.forall_mem_cons.mpr ⟨rfl, numeral.unblank (by decide)⟩
  | minus numeral => exact List.forall_mem_cons.mpr ⟨rfl, numeral.unblank (by decide)⟩

end Signs

end PipeQuery.Text
