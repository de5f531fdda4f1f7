import PipeQuery.Proofs.Argument.Reader
import PipeQuery.Proofs.Text.Numeral

/-!
# Integer literals

An integer that fits sixty-four bits reads as itself in every notation, as a signed word if one holds it
and as an unsigned word else. A mark of a base leaves no other way to be a number: what follows it is a
numeral of the base that fits, or the token is a bare word.
-/

set_option autoImplicit false

namespace PipeQuery

open Text

namespace Number

/-! ## Integers that fit -/

theorem exists_signed_of_ofInt? {value : Int} (lower : -(2 ^ 63) ≤ value) (upper : value < 2 ^ 63) :
    ∃ word : Int64, word.toInt = value ∧ ofInt? value = some (.signed word) :=
  ⟨Int64.ofInt value, Int64.toInt_ofInt_of_le lower upper, if_pos ⟨lower, upper⟩⟩

theorem exists_unsigned_of_ofInt? {value : Int} (lower : 2 ^ 63 ≤ value) (upper : value < 2 ^ 64) :
    ∃ word : UInt64, (word.toNat : Int) = value ∧ ofInt? value = some (.unsigned word) := by
  refine ⟨UInt64.ofNat value.toNat, ?_, ?_⟩
  · rw [UInt64.toNat_ofNat', Nat.mod_eq_of_lt (by omega)]
    omega
  · rw [ofInt?, if_neg (by omega), if_pos ⟨lower, upper⟩]

theorem ofInt?_natCast {value : Nat} (fits : value < 2 ^ 64) :
    ofInt? value = some (ofUInt64 (UInt64.ofNat value)) := by
  have word : (UInt64.ofNat value).toNat = value := UInt64.toNat_ofNat_of_lt' fits
  rw [ofInt?, ofUInt64, word]
  by_cases small : value < 2 ^ 63
  · rw [if_pos (by omega), if_pos small]
    rfl
  · rw [if_neg (by omega), if_pos (by omega), if_neg small, Int.toNat_natCast]

theorem exists_ofInt? {value : Nat} (fits : value < 2 ^ 64) : ∃ number, ofInt? value = some number :=
  ⟨_, ofInt?_natCast fits⟩

theorem ofInt?_eq_none {value : Nat} (large : 2 ^ 64 ≤ value) : ofInt? value = none := by
  rw [ofInt?, if_neg (by omega), if_neg (by omega)]

theorem ofToken?_of_signedNumeral {text : List Char} {value : Int} {number : Number}
    (numeral : SignedNumeral text value) (fits : ofInt? value = some number) :
    ofToken? text = some number := by
  apply ofToken?_of_decimalInteger
  rw [ofDecimalInteger?, readInt?_of_signedNumeral numeral, Option.bind_some, fits]

/-! ## Marks of bases -/

/-- The marks in front of numerals and the bases that they announce. -/
def radixMarks : List (String × Nat) :=
  [("0x", 16), ("0X", 16), ("0o", 8), ("0O", 8), ("0b", 2), ("0B", 2)]

variable {mark : String} {base : Nat}

theorem radixMark?_of_mem (marked : (mark, base) ∈ radixMarks) (text : List Char) :
    radixMark? (mark.toList ++ text) = some (base, text) := by
  simp only [radixMarks, List.mem_cons, Prod.mk.injEq, List.not_mem_nil, or_false] at marked
  rcases marked with ⟨rfl, rfl⟩ | ⟨rfl, rfl⟩ | ⟨rfl, rfl⟩ | ⟨rfl, rfl⟩ | ⟨rfl, rfl⟩ | ⟨rfl, rfl⟩ <;> rfl

/-- A mark is a zero and a letter. -/
theorem exists_letter_of_mem (marked : (mark, base) ∈ radixMarks) : ∃ letter, mark.toList = ['0', letter] ∧
    isDigit letter = false ∧ letter ≠ '-' ∧ isBlank letter = false := by
  simp only [radixMarks, List.mem_cons, Prod.mk.injEq, List.not_mem_nil, or_false] at marked
  rcases marked with ⟨rfl, -⟩ | ⟨rfl, -⟩ | ⟨rfl, -⟩ | ⟨rfl, -⟩ | ⟨rfl, -⟩ | ⟨rfl, -⟩
  all_goals exact ⟨_, rfl, rfl, by decide, rfl⟩

theorem base_le_of_mem (marked : (mark, base) ∈ radixMarks) : base ≤ 16 := by
  have bases : ∀ entry ∈ radixMarks, entry.2 ≤ 16 := by decide
  exact bases _ marked

/-- After a mark only the number counts that the digits of its base read as. -/
theorem ofToken?_of_mark (marked : (mark, base) ∈ radixMarks) (text : List Char) :
    ofToken? (mark.toList ++ text) = (readNat? base text).bind fun value => ofInt? value := by
  obtain ⟨letter, shape, other, -, -⟩ := exists_letter_of_mem marked
  have noInteger : readInt? (mark.toList ++ text) = none := by
    rw [shape]
    exact readInt?_eq_none (c := letter) (by simp) other
  simp only [ofToken?, ofDecimalInteger?, noInteger, Option.bind_none, radixMark?_of_mem marked]

theorem ofToken?_of_mark_of_numeral (marked : (mark, base) ∈ radixMarks) {text : List Char} {value : Nat}
    (numeral : Numeral base text value) : ofToken? (mark.toList ++ text) = ofInt? value := by
  rw [ofToken?_of_mark marked, readNat?_of_numeral (base_le_of_mem marked) numeral, Option.bind_some]

theorem ofToken?_of_mark_eq_none (marked : (mark, base) ∈ radixMarks) {text : List Char} {c : Char}
    (member : c ∈ text) (other : ∀ digit, ¬ IsDigitOf base c digit) :
    ofToken? (mark.toList ++ text) = none := by
  rw [ofToken?_of_mark marked]
  cases read : readNat? base text with
  | none => rfl
  | some value =>
      obtain ⟨digit, isDigit⟩ :=
        (numeral_of_readNat? (base_le_of_mem marked) read).exists_isDigitOf member
      exact absurd isDigit (other digit)

end Number

namespace Argument

/-- What reads as a number is no truth value. -/
theorem ofAtom?_of_number {token : List Char} {number : Number}
    (found : Number.ofToken? token = some number) : ofAtom? token = some (.number number) := by
  have notTrue : (token == "true".toList) = false := by
    rw [beq_eq_false_iff_ne]
    rintro rfl
    cases found
  have notFalse : (token == "false".toList) = false := by
    rw [beq_eq_false_iff_ne]
    rintro rfl
    cases found
  simp only [ofAtom?, notTrue, notFalse, found, Bool.false_eq_true, if_false]

theorem ofToken_of_number {token : List Char} {number : Number} (trimmed : Trimmed token)
    (found : Number.ofToken? token = some number) : ofToken token = .ok (.number number) := by
  apply ofToken_of_atom
  rw [trimmed.trim_eq]
  exact ofAtom?_of_number found

section Marks

variable {mark : String} {base : Nat}

theorem trim_mark_append (marked : (mark, base) ∈ Number.radixMarks) (text : List Char) :
    trim (mark.toList ++ text) = mark.toList ++ trimEnd text := by
  obtain ⟨letter, shape, -, -, unblank⟩ := Number.exists_letter_of_mem marked
  rw [shape]
  exact trimEnd_append_cons unblank ['0'] text

theorem ofToken_of_mark (marked : (mark, base) ∈ Number.radixMarks) {text : List Char}
    (noNumber : Number.ofToken? (mark.toList ++ trimEnd text) = none) :
    ofToken (mark.toList ++ text) = .ok (.bare (String.ofList (mark.toList ++ trimEnd text))) := by
  have trimmed : Trimmed (mark.toList ++ trimEnd text) :=
    trim_mark_append marked text ▸ trimmed_trim (mark.toList ++ text)
  obtain ⟨letter, shape, other, noHyphen, unblank⟩ := Number.exists_letter_of_mem marked
  have noAtom : ofAtom? (mark.toList ++ trimEnd text) = none := by
    rw [shape] at noNumber trimmed ⊢
    simp only [List.cons_append, List.nil_append] at noNumber trimmed ⊢
    have noDate := Calendar.ofLiteral?_eq_none_of_zero other noHyphen unblank trimmed
    rw [ofAtom?_cons (by decide), noNumber, unquote?_eq_none _ (by decide), noDate]
    rfl
  rw [ofToken_of_bare, trim_mark_append marked]
  · rw [trim_mark_append marked, noAtom]
  · rw [trim_mark_append marked, shape]
    exact enclosed?_of_other _ _ (by decide)
  · rw [trim_mark_append marked, shape]
    exact enclosed?_of_other _ _ (by decide)

end Marks

end Argument

/-! ## Every notation -/

theorem parseArgument_of_signedNumeral {literal : String} {value : Int} {number : Number}
    (numeral : SignedNumeral literal.toList value) (fits : Number.ofInt? value = some number) :
    parseArgument literal = .ok (.number number) :=
  Argument.ofToken_of_number (trimmed_of_unblank numeral.unblank)
    (Number.ofToken?_of_signedNumeral numeral fits)

theorem signedNumeral_toString (value : Nat) : SignedNumeral (toString value).toList value := by
  rw [toList_toString_nat]
  exact .unsigned (numeral_natDigits value)

section Marks

variable {mark : String} {base : Nat} (marked : (mark, base) ∈ Number.radixMarks) {digits : String}

include marked

theorem parseArgument_of_mark {value : Nat} {number : Number} (numeral : Numeral base digits.toList value)
    (fits : Number.ofInt? value = some number) :
    parseArgument (mark ++ digits) = .ok (.number number) := by
  obtain ⟨letter, shape, -, -, unblank⟩ := Number.exists_letter_of_mem marked
  have small := Number.base_le_of_mem marked
  have trimmed : Trimmed (mark.toList ++ digits.toList) := by
    apply trimmed_of_unblank
    rw [shape]
    exact List.forall_mem_cons.mpr ⟨rfl, List.forall_mem_cons.mpr ⟨unblank, numeral.unblank small⟩⟩
  rw [parseArgument, String.toList_append]
  exact Argument.ofToken_of_number trimmed (by rw [Number.ofToken?_of_mark_of_numeral marked numeral, fits])

theorem parseArgument_of_mark_of_large {value : Nat} (numeral : Numeral base digits.toList value)
    (large : 2 ^ 64 ≤ value) : parseArgument (mark ++ digits) = .ok (.bare (mark ++ digits)) := by
  have trimmed : trimEnd digits.toList = digits.toList := by
    rw [trimEnd_eq_rdropWhile, List.rdropWhile_eq_self_iff]
    intro nonempty
    simp [numeral.unblank (Number.base_le_of_mem marked) _ (List.getLast_mem nonempty)]
  have noNumber : Number.ofToken? (mark.toList ++ trimEnd digits.toList) = none := by
    rw [trimmed, Number.ofToken?_of_mark_of_numeral marked numeral, Number.ofInt?_eq_none large]
  rw [parseArgument, String.toList_append, Argument.ofToken_of_mark marked noNumber, trimmed,
    ← String.toList_append, String.ofList_toList]

theorem parseArgument_of_mark_of_misspelled {c : Char} (member : c ∈ trimEnd digits.toList)
    (other : ∀ digit, ¬ IsDigitOf base c digit) :
    parseArgument (mark ++ digits) = .ok (.bare (mark ++ String.ofList (trimEnd digits.toList))) := by
  have noNumber : Number.ofToken? (mark.toList ++ trimEnd digits.toList) = none :=
    Number.ofToken?_of_mark_eq_none marked member other
  rw [parseArgument, String.toList_append, Argument.ofToken_of_mark marked noNumber, String.ofList_append,
    String.ofList_toList]

end Marks

/-- A decimal integer reads as the signed word of its value, or as the unsigned word if only that holds
it. After a mark a numeral of the base reads as the same number as the decimal digits of its value, and
as a bare word if no word holds it. A sign after the mark, or any other character that is no digit of the
base, makes a bare word too. -/
theorem integers_read_exactly_in_every_notation :
    (∀ (literal : String) (value : Int), SignedNumeral literal.toList value →
      (-(2 ^ 63) ≤ value → value < 2 ^ 63 →
        ∃ word : Int64, word.toInt = value ∧ parseArgument literal = .ok (.number (.signed word))) ∧
      (2 ^ 63 ≤ value → value < 2 ^ 64 →
        ∃ word : UInt64, (word.toNat : Int) = value ∧
          parseArgument literal = .ok (.number (.unsigned word)))) ∧
    ∀ (mark : String) (base : Nat), (mark, base) ∈ Number.radixMarks → ∀ digits : String,
      (∀ value : Nat, Numeral base digits.toList value →
        (value < 2 ^ 64 → ∃ number, parseArgument (mark ++ digits) = .ok (.number number) ∧
          parseArgument (toString value) = .ok (.number number)) ∧
        (2 ^ 64 ≤ value → parseArgument (mark ++ digits) = .ok (.bare (mark ++ digits)))) ∧
      ((∃ rest, digits = "+" ++ rest ∨ digits = "-" ++ rest) ∨
          (∃ c ∈ trimEnd digits.toList, ∀ digit, ¬ IsDigitOf base c digit) →
        parseArgument (mark ++ digits) = .ok (.bare (mark ++ String.ofList (trimEnd digits.toList)))) := by
  refine ⟨fun literal value numeral => ⟨fun lower upper => ?_, fun lower upper => ?_⟩,
    fun mark base marked digits => ⟨fun value numeral => ⟨fun fits => ?_, fun large => ?_⟩, ?_⟩⟩
  · obtain ⟨word, same, found⟩ := Number.exists_signed_of_ofInt? lower upper
    exact ⟨word, same, parseArgument_of_signedNumeral numeral found⟩
  · obtain ⟨word, same, found⟩ := Number.exists_unsigned_of_ofInt? lower upper
    exact ⟨word, same, parseArgument_of_signedNumeral numeral found⟩
  · obtain ⟨number, found⟩ := Number.exists_ofInt? fits
    exact ⟨number, parseArgument_of_mark marked numeral found,
      parseArgument_of_signedNumeral (signedNumeral_toString value) found⟩
  · exact parseArgument_of_mark_of_large marked numeral large
  · have unsigned (sign : Char) (isSign : sign ∈ ['+', '-']) (digit : Nat) : ¬ IsDigitOf base sign digit :=
      not_isDigitOf_sign isSign (Number.base_le_of_mem marked)
    rintro (⟨rest, rfl | rfl⟩ | ⟨c, member, other⟩)
    · exact parseArgument_of_mark_of_misspelled marked (mem_trimEnd_of_unblank (c := '+') (by simp) rfl)
        (unsigned '+' (by simp))
    · exact parseArgument_of_mark_of_misspelled marked (mem_trimEnd_of_unblank (c := '-') (by simp) rfl)
        (unsigned '-' (by simp))
    · exact parseArgument_of_mark_of_misspelled marked member other

theorem integers_read_exactly_at_the_ends :
    (∃ word : Int64, word.toInt = -(2 ^ 63) ∧
        parseArgument "-009223372036854775808" = .ok (.number (.signed word))) ∧
      (∃ word : UInt64, (word.toNat : Int) = 2 ^ 64 - 1 ∧
        parseArgument "+18446744073709551615" = .ok (.number (.unsigned word))) ∧
      (∃ number, parseArgument ("0X" ++ "0aFfFfFfFfFfFfFfF") = .ok (.number number) ∧
        parseArgument (toString 12682136550675316735) = .ok (.number number)) ∧
      parseArgument ("0x" ++ "10000000000000000") = .ok (.bare ("0x" ++ "10000000000000000")) ∧
      parseArgument ("0o" ++ "-7") = .ok (.bare ("0o" ++ String.ofList (trimEnd "-7".toList))) ∧
      parseArgument ("0b" ++ "102 ") = .ok (.bare ("0b" ++ String.ofList (trimEnd "102 ".toList))) := by
  obtain ⟨decimal, marked⟩ := integers_read_exactly_in_every_notation
  have least : SignedNumeral "-009223372036854775808".toList (-(2 ^ 63)) :=
    @SignedNumeral.minus _ (2 ^ 63) (numeral_of_readNat? (by decide) (by decide +kernel))
  have greatest : SignedNumeral "+18446744073709551615".toList (2 ^ 64 - 1) :=
    @SignedNumeral.plus _ (2 ^ 64 - 1) (numeral_of_readNat? (by decide) (by decide +kernel))
  have letters : Numeral 16 "0aFfFfFfFfFfFfFfF".toList 12682136550675316735 :=
    numeral_of_readNat? (by decide) (by decide +kernel)
  have beyond : Numeral 16 "10000000000000000".toList (2 ^ 64) :=
    numeral_of_readNat? (by decide) (by decide +kernel)
  have foreign : ∀ digit, ¬ IsDigitOf 2 '2' digit := by
    intro digit isDigit
    have found := (digitValue?_eq_some_iff (by decide)).mpr isDigit
    cases found
  refine ⟨(decimal _ _ least).1 (by decide) (by decide), (decimal _ _ greatest).2 (by decide) (by decide),
    ((marked "0X" 16 (by decide) _).1 _ letters).1 (by decide),
    ((marked "0x" 16 (by decide) _).1 _ beyond).2 (by decide),
    (marked "0o" 8 (by decide) "-7").2 (.inl ⟨"7", .inr (by decide)⟩),
    (marked "0b" 2 (by decide) "102 ").2 (.inr ⟨'2', by decide, foreign⟩)⟩

end PipeQuery
