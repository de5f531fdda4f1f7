import PipeQuery.Number.Literal
import PipeQuery.Proofs.Binary64.Text

/-!
# Texts of numbers read back

Every number that readers produce is read back from its display text, with its kind: integers have no
character but digits and a sign, and the text of a finite binary number always has a mark. The other
tokens of an expression are recognized as no numbers by what they start with.
-/

set_option autoImplicit false

namespace PipeQuery.Number

open Text

/-- The numbers that readers produce: unsigned only where signed is too narrow, and finite. -/
def WellFormed : Number → Prop
  | .signed _ => True
  | .unsigned value => 2 ^ 63 ≤ value.toNat
  | .float value => value.isFinite = true

/-! ## Integers -/

theorem ofInt?_signed (value : Int64) : ofInt? value.toInt = some (.signed value) := by
  have lower := value.le_toInt
  have upper := value.toInt_lt
  rw [ofInt?, if_pos ⟨lower, upper⟩, Int64.ofInt_toInt]

theorem ofInt?_unsigned {value : UInt64} (large : 2 ^ 63 ≤ value.toNat) :
    ofInt? value.toNat = some (.unsigned value) := by
  have upper := value.toNat_lt
  rw [ofInt?, if_neg (by omega), if_pos ⟨by omega, by omega⟩, Int.toNat_natCast, UInt64.ofNat_toNat]

theorem ofToken?_of_decimalInteger {token : List Char} {number : Number}
    (read : ofDecimalInteger? token = some number) : ofToken? token = some number := by
  simp only [ofToken?, read]

theorem ofDecimalInteger?_intDigits (value : Int) :
    ofDecimalInteger? (intDigits value) = ofInt? value := by
  rw [ofDecimalInteger?, readInt?_intDigits, Option.bind_some]

theorem natDigits_eq_intDigits (value : Nat) : natDigits value = intDigits value := by
  rw [intDigits, if_neg (by omega), Int.natAbs_natCast]

/-! ## Binary numbers -/

theorem radixMark?_eq_none {c : Char} {rest : List Char} (other : c ≠ '0') :
    radixMark? (c :: rest) = none := by
  unfold radixMark?
  split <;> simp_all

theorem radixMark?_zero_eq_none {c : Char} {rest : List Char} (numeral : isNumeral c = true) :
    radixMark? ('0' :: c :: rest) = none := by
  have letter : c ∉ ['x', 'X', 'o', 'O', 'b', 'B'] := not_mem_of_class numeral rfl
  unfold radixMark?
  split <;> simp_all

theorem isNumeral_of_markedDigits {text : List Char} (marked : Decimal.MarkedDigits text) :
    ∀ c ∈ text, isNumeral c = true := by
  obtain ⟨whole, mark, rest, rfl, -, digits, sort, numerals⟩ := marked
  intro c member
  rcases List.mem_append.mp member with member | member
  · exact isNumeral_of_isDigit (digits c member)
  rcases List.mem_cons.mp member with rfl | member
  · rcases sort with rfl | rfl <;> decide
  · exact numerals c member

theorem radixMark?_of_numerals {text : List Char} (numerals : ∀ c ∈ text, isNumeral c = true) :
    radixMark? text = none := by
  cases text with
  | nil => rfl
  | cons first rest =>
      by_cases zero : first = '0'
      · subst zero
        cases rest with
        | nil => rfl
        | cons c rest => exact radixMark?_zero_eq_none (numerals c (by simp))
      · exact radixMark?_eq_none zero

/-- Digits with a mark among them are no integer, with a sign before them or not. -/
theorem ofDecimalInteger?_of_markedDigits {text : List Char} (marked : Decimal.MarkedDigits text)
    (negative : Bool) : ofDecimalInteger? (if negative then '-' :: text else text) = none := by
  obtain ⟨whole, mark, rest, rfl, nonempty, -, sort, -⟩ := marked
  have other : isDigit mark = false := by rcases sort with rfl | rfl <;> decide
  cases whole with
  | nil => exact absurd rfl nonempty
  | cons first tail =>
      have inside : mark ∈ tail ++ mark :: rest := by simp
      cases negative with
      | true => simp [ofDecimalInteger?, readInt?_eq_none (List.mem_cons_of_mem _ inside) other]
      | false => simp [ofDecimalInteger?, readInt?_eq_none inside other]

theorem isNumeral_of_signed_markedDigits {text : List Char} (marked : Decimal.MarkedDigits text)
    (negative : Bool) : ∀ c ∈ (if negative then '-' :: text else text), isNumeral c = true := by
  intro c member
  cases negative with
  | false => exact isNumeral_of_markedDigits marked c member
  | true =>
      rcases List.mem_cons.mp member with rfl | member
      · decide
      · exact isNumeral_of_markedDigits marked c member

theorem float_text_spec {value : Binary64} (finite : value.isFinite = true) :
    (∀ c ∈ value.text .display, isNumeral c = true) ∧
      ofToken? (value.text .display) = some (.float value) := by
  cases value with
  | nan => cases finite
  | infinite => cases finite
  | finite negative significand exponent canonical =>
      obtain ⟨magnitude, marked, text, read⟩ := Binary64.text_display_finite negative canonical
      have numerals := isNumeral_of_signed_markedDigits marked negative
      constructor
      · rw [text]
        exact numerals
      · rw [ofToken?, ofFloat?, read, text, ofDecimalInteger?_of_markedDigits marked,
          radixMark?_of_numerals numerals]
        rfl

/-! ## All numbers -/

theorem ofToken?_text {number : Number} (wellFormed : number.WellFormed) :
    ofToken? number.text = some number := by
  cases number with
  | signed value =>
      apply ofToken?_of_decimalInteger
      rw [text, ofDecimalInteger?_intDigits, ofInt?_signed]
  | unsigned value =>
      apply ofToken?_of_decimalInteger
      rw [text, natDigits_eq_intDigits, ofDecimalInteger?_intDigits, ofInt?_unsigned wellFormed]
  | float value => exact (float_text_spec wellFormed).2

theorem isNumeral_of_mem_text {number : Number} (wellFormed : number.WellFormed) {c : Char}
    (member : c ∈ number.text) : isNumeral c = true := by
  cases number with
  | signed value => exact isNumeral_of_mem_intDigits member
  | unsigned value => exact isNumeral_of_isDigit (isDigit_of_mem_natDigits member)
  | float value => exact (float_text_spec wellFormed).1 c member

/-! ## What tokens are read as -/

theorem wellFormed_of_ofInt? {value : Int} {number : Number} (found : ofInt? value = some number) :
    number.WellFormed := by
  unfold ofInt? at found
  split at found
  · cases found
    trivial
  split at found
  next large =>
    cases found
    have whole : (UInt64.ofNat value.toNat).toNat = value.toNat := by
      rw [UInt64.toNat_ofNat', Nat.mod_eq_of_lt (by omega)]
    show 2 ^ 63 ≤ (UInt64.ofNat value.toNat).toNat
    omega
  next => cases found

/-- Every number that a token is read as is one that readers produce. -/
theorem wellFormed_of_ofToken? {token : List Char} {number : Number}
    (found : ofToken? token = some number) : number.WellFormed := by
  unfold ofToken? at found
  split at found
  next integer =>
    cases found
    obtain ⟨_, _, fits⟩ := Option.bind_eq_some_iff.mp integer
    exact wellFormed_of_ofInt? fits
  split at found
  · obtain ⟨_, _, fits⟩ := Option.bind_eq_some_iff.mp found
    exact wellFormed_of_ofInt? fits
  · obtain ⟨value, _, kept⟩ := Option.bind_eq_some_iff.mp found
    obtain ⟨finite, same⟩ := Option.ite_none_right_eq_some.mp kept
    cases same
    exact finite

/-! ## Tokens that are no numbers -/

theorem decimal_ofText?_eq_none (whole : List Char) {rest : List Char} {stop : Char}
    (wholeDigits : ∀ c ∈ whole, isDigit c = true) (other : isDigit stop = false)
    (marks : stop ∉ ['.', 'e', 'E']) : Decimal.ofText? (whole ++ stop :: rest) = none := by
  have before := takeWhile_digits (stop :: rest) wholeDigits (by simpa using other)
  have after := dropWhile_digits (stop :: rest) wholeDigits (by simpa using other)
  simp only [List.mem_cons, List.not_mem_nil, or_false, not_or] at marks
  obtain ⟨point, lower, upper⟩ := marks
  simp only [Decimal.ofText?, before, after]
  split
  · next same => cases same; exact absurd rfl point
  · simp [lower, upper]

/-- A text that starts with no sign and no letter of a word for a number is a decimal or no binary
number. -/
theorem ofFloat?_eq_none {first : Char} {rest : List Char} (signs : first ∉ ['+', '-'])
    (letters : first.toLower ∉ ['n', 'i']) (decimal : Decimal.ofText? (first :: rest) = none) :
    ofFloat? (first :: rest) = none := by
  simp only [List.mem_cons, List.not_mem_nil, or_false, not_or] at signs letters
  have word : ∀ letter ∈ ['n', 'i'], ∀ tail,
      String.ofList ((first :: rest).map Char.toLower) ≠ String.ofList (letter :: tail) := by
    intro letter member tail same
    have heads := String.ofList_injective same
    simp only [List.map_cons, List.cons.injEq] at heads
    simp only [List.mem_cons, List.not_mem_nil, or_false] at member
    rcases member with rfl | rfl
    · exact letters.1 heads.1
    · exact letters.2 heads.1
  have notNan := word 'n' (by simp) ['a', 'n']
  have notInf := word 'i' (by simp) ['n', 'f']
  have notInfinity := word 'i' (by simp) ['n', 'f', 'i', 'n', 'i', 't', 'y']
  rw [ofFloat?, Binary64.ofText?, takeSign_of_ne signs.1 signs.2]
  simp only [decimal]
  rw [if_neg notNan, if_neg (not_or.mpr ⟨notInf, notInfinity⟩)]
  rfl

theorem ofToken?_eq_none {token : List Char} (integer : readInt? token = none)
    (radix : radixMark? token = none) (float : ofFloat? token = none) : ofToken? token = none := by
  simp only [ofToken?, ofDecimalInteger?, integer, radix, float, Option.bind_none]

theorem ofToken?_eq_none_of_first {first : Char} (rest : List Char) (digit : isDigit first = false)
    (marks : first ∉ ['+', '-', '.', 'e', 'E']) (letters : first.toLower ∉ ['n', 'i']) :
    ofToken? (first :: rest) = none := by
  simp only [List.mem_cons, List.not_mem_nil, or_false, not_or] at marks
  obtain ⟨plus, minus, point, lower, upper⟩ := marks
  apply ofToken?_eq_none
  · simp [readInt?, takeSign_of_ne plus minus, readNat?_ten_eq_none List.mem_cons_self digit]
  · apply radixMark?_eq_none
    rintro rfl
    cases digit
  · apply ofFloat?_eq_none (by simp [plus, minus]) letters
    exact decimal_ofText?_eq_none [] (by simp) digit (by simp [point, lower, upper])

theorem toLower_not_mem_of_digit {c : Char} (digit : isDigit c = true) : c.toLower ∉ ['n', 'i'] := by
  have lower : c.toLower = c := by
    have small : c.toNat ≤ 57 := of_decide_eq_true (Bool.and_eq_true_iff.mp digit).2
    exact dif_neg fun upper => absurd (Nat.le_trans (show 65 ≤ c.toNat from upper.1) small) (by decide)
  rw [lower]
  exact not_mem_of_class digit rfl

/-- At least two digits and a hyphen, as dates start, are no number. -/
theorem ofToken?_eq_none_of_hyphen {first second : Char} {whole : List Char} (rest : List Char)
    (digits : ∀ c ∈ first :: second :: whole, isDigit c = true) :
    ofToken? (first :: second :: whole ++ '-' :: rest) = none := by
  have firstDigit : isDigit first = true := digits first (by simp)
  have secondDigit : isDigit second = true := digits second (by simp)
  apply ofToken?_eq_none
  · exact readInt?_eq_none (c := '-') (by simp) rfl
  · by_cases zero : first = '0'
    · subst zero
      exact radixMark?_zero_eq_none (isNumeral_of_isDigit secondDigit)
    · exact radixMark?_eq_none zero
  · apply ofFloat?_eq_none (not_mem_of_class firstDigit rfl) (toLower_not_mem_of_digit firstDigit)
    exact decimal_ofText?_eq_none _ digits rfl (by decide)

end PipeQuery.Number
