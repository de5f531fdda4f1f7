import PipeQuery.Proofs.Argument.WellFormed
import PipeQuery.Proofs.Pipeline.Canonical
import PipeQuery.Proofs.Pipeline.Rejection

/-!
# Maps of integers under quoted keys

A quote hides the commas, brackets and bars of a key from the scan that cuts a map into its entries. It
does not hide a colon: the key of an entry ends at the first one, be it inside of quotes. The text of a
map of integers is always read as a map, and as the same one if and only if no key has a colon.
-/

set_option autoImplicit false

namespace PipeQuery

namespace Argument

open Text

/-- The value is a word of either kind. -/
inductive IsInteger : Argument → Prop where
  | signed (word : Int64) : IsInteger (.number (.signed word))
  | unsigned (word : UInt64) : IsInteger (.number (.unsigned word))

theorem IsInteger.wellFormed_iff {value : Argument} (integer : value.IsInteger) : value.WellFormed ↔
    ∀ word, value = .number (.unsigned word) → 2 ^ 63 ≤ word.toNat := by
  cases integer with
  | signed word => exact ⟨fun _ => by nofun, fun _ => .number trivial⟩
  | unsigned word =>
      constructor
      · rintro (_ | large) _ ⟨⟩
        exact large
      · exact fun large => .number (large word rfl)

theorem IsInteger.wellFormed_of_canonical {value : Argument} {text : List Char}
    (integer : value.IsInteger) (canonical : value.Canonical text) : value.WellFormed := by
  cases integer with
  | signed word => exact .number trivial
  | unsigned word =>
      cases canonical with
      | number wellFormed => exact .number wellFormed

theorem IsInteger.isNumeral_of_mem {value : Argument} (integer : value.IsInteger) {c : Char}
    (member : c ∈ value.chars) : isNumeral c = true := by
  cases integer with
  | signed word =>
      rw [chars, Number.text] at member
      exact isNumeral_of_mem_intDigits member
  | unsigned word =>
      rw [chars, Number.text] at member
      exact isNumeral_of_isDigit (isDigit_of_mem_natDigits member)

theorem IsInteger.chars_ne_nil {value : Argument} (integer : value.IsInteger) : value.chars ≠ [] := by
  cases integer with
  | signed word =>
      have piece : Piece ',' (Number.signed word).text := piece_number trivial
      exact piece.nonempty
  | unsigned word => exact natDigits_ne_nil word.toNat

theorem IsInteger.piece {value : Argument} (integer : value.IsInteger) : Piece ',' value.chars :=
  .plain rfl (fun _ member => isPlain_of_isNumeral (integer.isNumeral_of_mem member)) integer.chars_ne_nil

/-! ## Entries that are read whatever their keys are -/

/-- A token that ends on no bracket is read as something. -/
theorem exists_ofToken_concat {c : Char} (unblank : isBlank c = false) (unbracketed : c ∉ [']', '}'])
    (text : List Char) : ∃ value, ofToken (text ++ [c]) = .ok value := by
  cases read : ofToken (text ++ [c]) with
  | ok value => exact ⟨value, rfl⟩
  | error error =>
      rcases ofToken_eq_error_cases read with ⟨inner, enclosed, -⟩ | ⟨inner, enclosed, -⟩
      all_goals
        have shape := eq_of_enclosed? enclosed
        rw [trim_concat unblank, ← List.cons_append] at shape
        obtain ⟨-, last⟩ := List.append_singleton_inj.mp shape
        simp [last] at unbracketed

/-- The text of an entry with an integer is read as an entry, wherever it is cut. -/
theorem exists_entryOf_of_integer {entry : String × Argument} (integer : entry.2.IsInteger) :
    ∃ read, entryOf (trim (entryText entry)) = .ok read := by
  obtain ⟨digits, last, shape⟩ := (List.eq_nil_or_concat' entry.2.chars).resolve_left integer.chars_ne_nil
  have numeral : isNumeral last = true := integer.isNumeral_of_mem (by simp [shape])
  have unblank : isBlank last = false := isBlank_of_isPlain (isPlain_of_isNumeral numeral)
  have unbracketed : last ∉ [']', '}'] := not_mem_of_class numeral rfl
  have text : trim (entryText entry) = keyText entry.1 ++ ':' :: (' ' :: digits ++ [last]) := by
    rw [trim_entryText, shape, ← List.cons_append]
    exact congrArg _ (congrArg _ (trimEnd_append_cons unblank (' ' :: digits) []))
  rw [text]
  cases read : entryOf (keyText entry.1 ++ ':' :: (' ' :: digits ++ [last])) with
  | ok found => exact ⟨found, rfl⟩
  | error error =>
      rcases entryOf_eq_error_cases read with ⟨colonless, -⟩ | ⟨key, token, cut, failed⟩
      · simp at colonless
      -- The value starts behind the first colon of all, but it ends on the last digit.
      rcases List.eq_nil_or_concat' token with rfl | ⟨others, final, rfl⟩
      · cases failed.symm.trans (ofToken_of_bare rfl rfl rfl)
      · have joined : (keyText entry.1 ++ ':' :: ' ' :: digits) ++ [last] =
            (key ++ ':' :: others) ++ [final] := by simpa using cut
        obtain ⟨-, rfl⟩ := List.append_singleton_inj.mp joined
        obtain ⟨value, found⟩ := exists_ofToken_concat unblank unbracketed others
        cases failed.symm.trans found

/-! ## Maps -/

theorem exists_ofToken_map_of_integers {entries : Table Argument}
    (quotable : ∀ entry ∈ entries, IsQuotable entry.1.toList)
    (integers : ∀ entry ∈ entries, entry.2.IsInteger) :
    ∃ read, ofToken (map entries).chars = .ok (.map read) := by
  have alone : ∀ entry ∈ entries, StandsAlone ',' (entryText entry) := fun entry member =>
    (piece_entryText (.inr (quotable entry member)) (integers entry member).piece).standsAlone
  have each : ∀ text ∈ entries.map fun entry => trim (entryText entry), ∃ read, entryOf text = .ok read :=
    List.forall_mem_map.mpr fun entry member => exists_entryOf_of_integer (integers entry member)
  obtain ⟨read, all⟩ := exists_mapM_ok_iff.mpr each
  rw [ofToken_chars_map, entriesOf_eq_mapM, split_entryTexts alone, all]
  exact ⟨_, rfl⟩

theorem ofToken_map_of_integers_iff {entries : Table Argument} (sorted : entries.Sorted)
    (quotable : ∀ entry ∈ entries, IsQuotable entry.1.toList)
    (integers : ∀ entry ∈ entries, entry.2.IsInteger) :
    ofToken (map entries).chars = .ok (.map entries) ↔
      (∀ entry ∈ entries, ':' ∉ entry.1.toList) ∧ ∀ entry ∈ entries, entry.2.WellFormed := by
  constructor
  · intro read
    cases canonical_of_ofToken read with
    | map keys values =>
        refine ⟨fun entry member => (keys entry member).1, fun entry member => ?_⟩
        exact (integers entry member).wellFormed_of_canonical (values entry member)
  · rintro ⟨colonless, wellFormed⟩
    refine WellFormed.ofToken_chars (.map sorted (fun entry member => ?_) wellFormed)
    exact .inr ⟨colonless entry member, quotable entry member⟩

end Argument

/-- The text of a map of integers is read as a map whenever each key is kept closed by one of the quotes.
It is read as the same map if and only if no key has a colon and unsigned words stand only where no signed
one fits. -/
theorem integer_maps_read_back_unless_a_key_has_a_colon (entries : Table Argument) (sorted : entries.Sorted)
    (quotable : ∀ entry ∈ entries, Text.IsQuotable entry.1.toList)
    (integers : ∀ entry ∈ entries, entry.2.IsInteger) :
    (∃ read, parseArgument (Argument.map entries).display = .ok (.map read)) ∧
      (parseArgument (Argument.map entries).display = .ok (.map entries) ↔
        (∀ entry ∈ entries, ':' ∉ entry.1.toList) ∧ ∀ entry ∈ entries, ∀ word,
          entry.2 = .number (.unsigned word) → 2 ^ 63 ≤ word.toNat) := by
  rw [parseArgument, Argument.display, String.toList_ofList]
  refine ⟨Argument.exists_ofToken_map_of_integers quotable integers, ?_⟩
  rw [Argument.ofToken_map_of_integers_iff sorted quotable integers]
  exact and_congr_right' (forall₂_congr fun entry member => (integers entry member).wellFormed_iff)

theorem integer_map_reads_back_from_quotes_with_commas_and_bars :
    let entries : Table Argument := [("a, [b | c", .number (.signed (-1))), ("it's", .number (.signed 2)),
      ("say \"hi\"", .number (.unsigned 18446744073709551615))]
    parseArgument (Argument.map entries).display = .ok (.map entries) := by
  intro entries
  have sorted : entries.Sorted := by
    rw [Table.Sorted]
    decide
  have quotable : ∀ entry ∈ entries, Text.IsQuotable entry.1.toList := by
    simp only [entries, List.forall_mem_cons]
    exact ⟨.inl (by decide), .inl (by decide), .inr (by decide), by simp⟩
  have integers : ∀ entry ∈ entries, entry.2.IsInteger := by
    simp only [entries, List.forall_mem_cons]
    exact ⟨.signed _, .signed _, .unsigned _, by simp⟩
  refine (integer_maps_read_back_unless_a_key_has_a_colon entries sorted quotable integers).2.mpr ⟨?_, ?_⟩
  · simp only [entries, List.forall_mem_cons]
    exact ⟨by decide, by decide, by decide, by simp⟩
  · simp [entries]

/-- The key of this entry can be quoted, and its text is cut inside of the quotes. -/
theorem quoted_key_with_a_colon_is_cut_inside :
    Text.IsQuotable "a:b".toList ∧ (Argument.map [("a:b", .number (.signed 1))]).display = "\x7b\"a:b\": 1\x7d" ∧
      parseArgument (Argument.map [("a:b", .number (.signed 1))]).display =
        .ok (.map [("\"a", .bare "b\": 1")]) := by
  have text : (Argument.map [("a:b", .number (.signed 1))]).display = "\x7b\"a:b\": 1\x7d" := by
    decide +kernel
  have entries : Text.split ',' "\"a:b\": 1".toList = ["\"a:b\": 1".toList] := by decide +kernel
  refine ⟨.inl (by decide), text, ?_⟩
  rw [text]
  exact Argument.ofToken_eq_map (by rfl) (by rfl) (by rfl) entries
    (mapM_cons_ok (Argument.entryOf_eq (by rfl) (Argument.ofToken_of_bare rfl rfl rfl)) rfl) rfl

end PipeQuery
