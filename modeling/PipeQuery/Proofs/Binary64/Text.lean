import PipeQuery.Binary64.Printer
import PipeQuery.Proofs.Binary64.Shortest
import PipeQuery.Proofs.Text.Digits

/-!
# Texts of binary numbers read back

The display text of a decimal reads back as a decimal of the same value, in either notation, and so the
display text of a finite binary number reads back as that number.
-/

set_option autoImplicit false

namespace PipeQuery.Decimal

open Text

/-! ## Reading -/

theorem ofText?_point {whole fraction : List Char} (nonempty : whole ≠ [])
    (wholeDigits : ∀ c ∈ whole, isDigit c = true) (fractionDigits : ∀ c ∈ fraction, isDigit c = true) :
    ofText? (whole ++ '.' :: fraction) =
      some ⟨natOfDigits (whole ++ fraction), -(fraction.length : Int)⟩ := by
  have before := takeWhile_digits ('.' :: fraction) wholeDigits (by simp; decide)
  have after := dropWhile_digits ('.' :: fraction) wholeDigits (by simp; decide)
  have digits := takeWhile_digits [] fractionDigits (by simp)
  have nothing := dropWhile_digits [] fractionDigits (by simp)
  rw [List.append_nil] at digits nothing
  simp [ofText?, before, after, digits, nothing, nonempty]

theorem ofText?_point_scale {whole fraction : List Char} (scale : Int) (nonempty : whole ≠ [])
    (wholeDigits : ∀ c ∈ whole, isDigit c = true) (fractionDigits : ∀ c ∈ fraction, isDigit c = true) :
    ofText? (whole ++ '.' :: (fraction ++ 'e' :: intDigits scale)) =
      some ⟨natOfDigits (whole ++ fraction), scale - fraction.length⟩ := by
  have before := takeWhile_digits ('.' :: (fraction ++ 'e' :: intDigits scale)) wholeDigits
    (by simp; decide)
  have after := dropWhile_digits ('.' :: (fraction ++ 'e' :: intDigits scale)) wholeDigits
    (by simp; decide)
  have digits := takeWhile_digits ('e' :: intDigits scale) fractionDigits (by simp; decide)
  have rest := dropWhile_digits ('e' :: intDigits scale) fractionDigits (by simp; decide)
  simp [ofText?, before, after, digits, rest, nonempty, readInt?_intDigits]

theorem ofText?_scale {whole : List Char} (scale : Int) (nonempty : whole ≠ [])
    (wholeDigits : ∀ c ∈ whole, isDigit c = true) :
    ofText? (whole ++ 'e' :: intDigits scale) = some ⟨natOfDigits whole, scale⟩ := by
  have before := takeWhile_digits ('e' :: intDigits scale) wholeDigits (by simp; decide)
  have after := dropWhile_digits ('e' :: intDigits scale) wholeDigits (by simp; decide)
  simp [ofText?, before, after, nonempty, readInt?_intDigits]

/-! ## The two notations -/

/-- A text that starts with digits and then has a point or the mark of an exponent. -/
def MarkedDigits (text : List Char) : Prop :=
  ∃ whole mark rest, text = whole ++ mark :: rest ∧ whole ≠ [] ∧
    (∀ c ∈ whole, isDigit c = true) ∧ (mark = '.' ∨ mark = 'e') ∧ ∀ c ∈ rest, isNumeral c = true

/-- A text of digits with a mark that reads back as a decimal of the same value, with any sign. -/
structure Denotes (text : List Char) (decimal : Decimal) : Prop where
  marked : MarkedDigits text
  reads : ∃ read, ofText? text = some read ∧
    ∀ negative, Binary64.ofDecimal negative read = Binary64.ofDecimal negative decimal

theorem digits_of_mem_append {left right : List Char} (leftDigits : ∀ c ∈ left, isDigit c = true)
    (rightDigits : ∀ c ∈ right, isDigit c = true) : ∀ c ∈ left ++ right, isDigit c = true := by
  intro c member
  rcases List.mem_append.mp member with member | member
  · exact leftDigits c member
  · exact rightDigits c member

theorem isDigit_of_mem_zeros (count : Nat) : ∀ c ∈ List.replicate count '0', isDigit c = true := by
  intro c member
  rw [List.eq_of_mem_replicate member]
  rfl

/-- Digits on both sides of a point denote what they denote without it, scaled by the places after it. -/
theorem denotes_point {whole fraction : List Char} (nonempty : whole ≠ [])
    (wholeDigits : ∀ c ∈ whole, isDigit c = true) (fractionDigits : ∀ c ∈ fraction, isDigit c = true)
    {decimal : Decimal} (value : ∀ negative,
      Binary64.ofDecimal negative ⟨natOfDigits (whole ++ fraction), -(fraction.length : Int)⟩ =
        Binary64.ofDecimal negative decimal) : Denotes (whole ++ '.' :: fraction) decimal where
  marked := ⟨whole, '.', fraction, rfl, nonempty, wholeDigits, .inl rfl,
    fun c member => isNumeral_of_isDigit (fractionDigits c member)⟩
  reads := ⟨_, ofText?_point nonempty wholeDigits fractionDigits, value⟩

section Positional

variable {digits : Nat} {exponent : Int}

/-- The digits and zeros of a whole number gain one more zero after the point. -/
theorem denotes_wholeNumber (whole : exponent ≥ 0) :
    Denotes (natDigits digits ++ List.replicate exponent.toNat '0' ++ ['.', '0']) ⟨digits, exponent⟩ := by
  apply denotes_point (by simp)
    (digits_of_mem_append (fun c => isDigit_of_mem_natDigits) (isDigit_of_mem_zeros exponent.toNat))
    (isDigit_of_mem_zeros 1)
  intro negative
  have value : natOfDigits (natDigits digits ++ List.replicate exponent.toNat '0' ++ ['0']) =
      digits * 10 ^ (exponent.toNat + 1) := by
    have zero : natOfDigits ['0'] = 0 := rfl
    rw [natOfDigits_append, natOfDigits_append, natOfDigits_natDigits, natOfDigits_replicate_zero, zero,
      List.length_replicate, List.length_singleton, Nat.pow_succ]
    ring
  rw [List.replicate_one, value, Binary64.ofDecimal_shift]
  congr 2
  simp only [List.length_singleton]
  omega

theorem denotes_pointAmongDigits (fraction : exponent < 0)
    (inside : (-exponent).toNat < (natDigits digits).length) :
    Denotes ((natDigits digits).take ((natDigits digits).length - (-exponent).toNat) ++
      '.' :: (natDigits digits).drop ((natDigits digits).length - (-exponent).toNat))
      ⟨digits, exponent⟩ := by
  apply denotes_point
  · rw [Ne, List.take_eq_nil_iff, not_or]
    exact ⟨by omega, natDigits_ne_nil digits⟩
  · exact fun c member => isDigit_of_mem_natDigits (List.mem_of_mem_take member)
  · exact fun c member => isDigit_of_mem_natDigits (List.mem_of_mem_drop member)
  · intro negative
    rw [List.take_append_drop, natOfDigits_natDigits, List.length_drop]
    congr 2
    omega

theorem denotes_pointBeforeDigits (fraction : exponent < 0)
    (outside : ¬ (-exponent).toNat < (natDigits digits).length) :
    Denotes ('0' :: '.' :: List.replicate ((-exponent).toNat - (natDigits digits).length) '0' ++
      natDigits digits) ⟨digits, exponent⟩ := by
  have zeroDigit : ∀ c ∈ ['0'], isDigit c = true := isDigit_of_mem_zeros 1
  have placesDigits := digits_of_mem_append
    (isDigit_of_mem_zeros ((-exponent).toNat - (natDigits digits).length))
    (fun c (member : c ∈ natDigits digits) => isDigit_of_mem_natDigits member)
  apply denotes_point (by simp) zeroDigit placesDigits
  intro negative
  have zero : natOfDigits ['0'] = 0 := rfl
  rw [natOfDigits_append, natOfDigits_append, natOfDigits_natDigits, natOfDigits_replicate_zero, zero,
    List.length_append, List.length_replicate]
  congr 2
  · ring
  · omega

end Positional

theorem denotes_positionalText (decimal : Decimal) : Denotes decimal.positionalText decimal := by
  obtain ⟨digits, exponent⟩ := decimal
  unfold positionalText
  by_cases whole : exponent ≥ 0
  · simp only [if_pos whole]
    exact denotes_wholeNumber whole
  · simp only [if_neg whole]
    by_cases inside : (-exponent).toNat < (natDigits digits).length
    · rw [if_pos inside]
      exact denotes_pointAmongDigits (by omega) inside
    · rw [if_neg inside]
      exact denotes_pointBeforeDigits (by omega) inside

theorem scientificText_of_one_digit {digits : Nat} {exponent : Int} {first : Char}
    (single : natDigits digits = [first]) :
    scientificText false ⟨digits, exponent⟩ = [first] ++ 'e' :: intDigits exponent := by
  simp [scientificText, single]

theorem scientificText_of_more_digits {digits : Nat} {exponent : Int} {first second : Char}
    {tail : List Char} (several : natDigits digits = first :: second :: tail) :
    scientificText false ⟨digits, exponent⟩ =
      [first] ++ '.' :: (second :: tail ++ 'e' :: intDigits (exponent + (second :: tail).length)) := by
  have scale : exponent + (tail.length + 1 + 1) - 1 = exponent + (tail.length + 1) := by omega
  simp [scientificText, several, scale]

theorem scientificText_spec (decimal : Decimal) :
    MarkedDigits (decimal.scientificText false) ∧
      ofText? (decimal.scientificText false) = some decimal := by
  obtain ⟨digits, exponent⟩ := decimal
  have written : ∀ c ∈ natDigits digits, isDigit c = true := fun c member => isDigit_of_mem_natDigits member
  have value := natOfDigits_natDigits digits
  have scaleNumeral : ∀ scale, ∀ c ∈ intDigits scale, isNumeral c = true := fun _ _ member =>
    isNumeral_of_mem_intDigits member
  cases split : natDigits digits with
  | nil => exact absurd split (natDigits_ne_nil digits)
  | cons first tail =>
      rw [split] at written value
      have firstDigit : ∀ c ∈ [first], isDigit c = true := by simpa using written first (by simp)
      have tailDigits : ∀ c ∈ tail, isDigit c = true := fun c member =>
        written c (List.mem_cons_of_mem _ member)
      cases tail with
      | nil =>
          rw [scientificText_of_one_digit split]
          refine ⟨⟨_, 'e', _, rfl, by simp, firstDigit, .inr rfl, scaleNumeral _⟩, ?_⟩
          rw [ofText?_scale _ (by simp) firstDigit, value]
      | cons second tail =>
          rw [scientificText_of_more_digits split]
          refine ⟨⟨_, '.', _, rfl, by simp, firstDigit, .inl rfl, ?_⟩, ?_⟩
          · intro c member
            rcases List.mem_append.mp member with member | member
            · exact isNumeral_of_isDigit (tailDigits c member)
            · rcases List.mem_cons.mp member with rfl | member
              · decide
              · exact scaleNumeral _ c member
          · rw [ofText?_point_scale _ (by simp) firstDigit tailDigits, List.singleton_append, value,
              add_sub_cancel_right]

theorem denotes_text (decimal : Decimal) : Denotes (decimal.text .display) decimal := by
  unfold text
  dsimp only
  split
  · exact denotes_positionalText decimal
  · obtain ⟨marked, read⟩ := scientificText_spec decimal
    exact ⟨marked, decimal, read, fun _ => rfl⟩

end PipeQuery.Decimal

namespace PipeQuery.Binary64

open Text

theorem ofText?_of_decimal {text : List Char} {first : Char} {rest : List Char} {decimal : Decimal}
    (start : text = first :: rest) (digit : isDigit first = true)
    (read : Decimal.ofText? text = some decimal) :
    ofText? text = some (ofDecimal false decimal) ∧
      ofText? ('-' :: text) = some (ofDecimal true decimal) := by
  subst start
  constructor
  · simp [ofText?, takeSign_of_digit digit, read]
  · simp [ofText?, takeSign, read]

end PipeQuery.Binary64

namespace PipeQuery.Decimal

theorem MarkedDigits.starts_with_digit {text : List Char} (marked : MarkedDigits text) :
    ∃ first rest, text = first :: rest ∧ Text.isDigit first = true := by
  obtain ⟨whole, mark, rest, rfl, nonempty, digits, -⟩ := marked
  cases whole with
  | nil => exact absurd rfl nonempty
  | cons first tail => exact ⟨first, _, rfl, digits first List.mem_cons_self⟩

end PipeQuery.Decimal

namespace PipeQuery.Binary64

open Text

/-- The display text of a finite number: digits with a mark among them, after a minus if the number has
a sign. -/
theorem text_display_finite (negative : Bool) {significand exponent : Nat}
    (canonical : Canonical significand exponent) :
    ∃ magnitude, Decimal.MarkedDigits magnitude ∧
      (finite negative significand exponent canonical).text .display =
        (if negative then '-' :: magnitude else magnitude) ∧
      ofText? ((finite negative significand exponent canonical).text .display) =
        some (finite negative significand exponent canonical) := by
  obtain ⟨marked, decimal, read, value⟩ :=
    Decimal.denotes_text (Decimal.shortest .up significand exponent canonical)
  obtain ⟨first, rest, start, digit⟩ := marked.starts_with_digit
  obtain ⟨unsigned, signed⟩ := ofText?_of_decimal start digit read
  have shortest := Decimal.ofDecimal_shortest .up canonical
  have number := fun negative => (value negative).trans (ofDecimal_of_false shortest negative)
  rw [number] at unsigned signed
  refine ⟨_, marked, rfl, ?_⟩
  cases negative with
  | false => exact unsigned
  | true => exact signed

end PipeQuery.Binary64
