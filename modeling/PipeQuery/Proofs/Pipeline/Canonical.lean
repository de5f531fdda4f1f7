import PipeQuery.Proofs.Argument.Rendering
import PipeQuery.Proofs.Pipeline.StepEnd

/-!
# Calls that have been read

Whatever the expression, the values of its calls are of one shape: numbers are of the kind that fits them,
bare words are trimmed and read as themselves, nothing empty stands in a list or among the arguments, no
key has a colon, and every text has been copied from the expression in one run.
-/

set_option autoImplicit false

namespace PipeQuery

namespace Argument

open Text

/-- The values that may be read from a text. The numbers are finite, and unsigned only where no signed one
fits. -/
inductive Canonical (text : List Char) : Argument → Prop where
  | bool (value : Bool) : Canonical text (.bool value)
  | number {value : Number} : value.WellFormed → Canonical text (.number value)
  | str {content : String} : content.toList <:+: text → Canonical text (.str content)
  | instant (value : Instant) : Canonical text (.instant value)
  | list {items : List Argument} : (∀ item ∈ items, item ≠ .bare "") →
      (∀ item ∈ items, Canonical text item) → Canonical text (.list items)
  | map {entries : List (String × Argument)} :
      (∀ entry ∈ entries, ':' ∉ entry.1.toList ∧ entry.1.toList <:+: text) →
      (∀ entry ∈ entries, Canonical text entry.2) → Canonical text (.map entries)
  | bare {word : String} : trim word.toList = word.toList → parseArgument word = .ok (.bare word) →
      word.toList <:+: text → Canonical text (.bare word)

theorem Canonical.mono {text whole : List Char} {value : Argument} (canonical : value.Canonical text)
    (inside : text <:+: whole) : value.Canonical whole := by
  induction canonical with
  | bool value => exact .bool value
  | number wellFormed => exact .number wellFormed
  | str among => exact .str (among.trans inside)
  | instant value => exact .instant value
  | list nonempty _ canonical => exact .list nonempty canonical
  | map keys _ canonical =>
      exact .map (fun entry member => (keys entry member).imp_right (·.trans inside)) canonical
  | bare trimmed reads among => exact .bare trimmed reads (among.trans inside)

/-- The empty word is only read from a blank token. -/
theorem ne_bare_empty_of_ofToken {token : List Char} {value : Argument} (read : ofToken token = .ok value)
    (nonblank : trim token ≠ []) : value ≠ .bare "" := by
  cases readAs_of_ofToken read with
  | bare =>
      intro empty
      injection empty with empty
      exact nonblank (String.ofList_eq_empty_iff.mp empty)
  | _ => nofun

theorem canonical_items {inner : List Char} {items : List Argument} (read : itemsOf inner = .ok items)
    (shorter : ∀ token value, token.length ≤ inner.length → ofToken token = .ok value →
      value.Canonical token) :
    ∀ item ∈ items, item ≠ .bare "" ∧ item.Canonical inner := by
  intro item member
  rw [itemsOf_eq_mapM] at read
  obtain ⟨piece, among, found⟩ := exists_of_mem_mapM_ok read member
  have canonical := shorter piece item (length_le_of_mem_split among) found
  exact ⟨ne_bare_empty_of_ofToken found (trim_ne_nil_of_mem_split among),
    canonical.mono (infix_of_mem_split among)⟩

theorem canonical_entries {inner : List Char} {entries : List (String × Argument)}
    (read : entriesOf inner = .ok entries)
    (shorter : ∀ token value, token.length ≤ inner.length → ofToken token = .ok value →
      value.Canonical token) :
    ∀ entry ∈ entries, (':' ∉ entry.1.toList ∧ entry.1.toList <:+: inner) ∧ entry.2.Canonical inner := by
  intro entry member
  rw [entriesOf_eq_mapM] at read
  obtain ⟨piece, among, found⟩ := exists_of_mem_mapM_ok read member
  obtain ⟨key, token, parts, named, found⟩ := exists_parts_of_entryOf found
  have inside := infix_of_mem_split among
  have keyInside : key <:+: piece := ⟨[], ':' :: token, (eq_of_splitAtColon? parts).symm⟩
  have tokenInside : token <:+: piece := ⟨key ++ [':'], [], by simp [eq_of_splitAtColon? parts]⟩
  have canonical := shorter token entry.2 ((tokenInside.trans inside).length_le) found
  rw [named]
  exact ⟨⟨colon_not_mem_keyOf (colon_not_mem_of_splitAtColon? parts),
    (infix_keyOf key).trans (keyInside.trans inside)⟩, canonical.mono (tokenInside.trans inside)⟩

theorem canonical_of_ofToken {token : List Char} {value : Argument} (read : ofToken token = .ok value) :
    value.Canonical token := by
  -- The values inside of a list or a map stand in tokens that are shorter by the brackets.
  induction bound : token.length using Nat.strong_induction_on generalizing token value with
  | _ bound ih =>
      subst bound
      have inside := infix_trim token
      cases readAs_of_ofToken read with
      | bool value => exact .bool value
      | number wellFormed => exact .number wellFormed
      | str unquoted =>
          refine .str ?_
          rw [String.toList_ofList]
          exact (infix_of_unquote? unquoted).trans inside
      | instant => exact .instant _
      | @list inner items all enclosed =>
          have within := (infix_of_enclosed? enclosed).trans inside
          have canonical := canonical_items all fun other value short found =>
            ih other.length (Nat.lt_of_le_of_lt short (length_lt_of_enclosed?_trim enclosed)) found rfl
          exact .list (fun item member => (canonical item member).1)
            fun item member => (canonical item member).2.mono within
      | @map inner entries all enclosed =>
          have within := (infix_of_enclosed? enclosed).trans inside
          have canonical := canonical_entries all fun other value short found =>
            ih other.length (Nat.lt_of_le_of_lt short (length_lt_of_enclosed?_trim enclosed)) found rfl
          refine .map (fun entry member => ?_) fun entry member => ?_
          · exact (canonical entry (Table.mem_of_mem_ofList member)).1.imp_right (·.trans within)
          · exact (canonical entry (Table.mem_of_mem_ofList member)).2.mono within
      | bare =>
          refine .bare ?_ ?_ ?_
          · rw [String.toList_ofList, trim_trim]
          · rw [parseArgument, String.toList_ofList, ofToken_trim, read]
          · rw [String.toList_ofList]
            exact inside

end Argument

/-! ## Calls -/

theorem Call.canonical_of_ofStep {step : List Char} {call : Call} (read : Call.ofStep step = .ok call) :
    Text.isIdentifier call.name = true ∧
      ∀ argument ∈ call.args, argument ≠ .bare "" ∧ argument.Canonical step := by
  rcases Call.cases_of_ofStep read with ⟨name, inner, found, all, named⟩ | ⟨word, rfl⟩
  · obtain ⟨word, blanks, -, shape⟩ := Call.eq_of_application? found
    have inside : inner <:+: Text.trim step := ⟨name ++ (blanks ++ ['(']), [')'], by rw [shape]; simp⟩
    have canonical := Argument.canonical_items all fun _ _ _ found => Argument.canonical_of_ofToken found
    refine ⟨by rw [named, Text.isIdentifier, String.toList_ofList]; exact word, fun argument member => ?_⟩
    exact (canonical argument member).imp_right (·.mono (inside.trans (Text.infix_trim step)))
  · exact ⟨by rw [Text.isIdentifier, String.toList_ofList]; exact word, by simp⟩

/-- Every expression that is read is read as calls by identifiers, with arguments that are canonical and
not empty. -/
theorem parsePipeline_canonical (expression : String) (calls : List Call)
    (read : parsePipeline expression = .ok calls) :
    ∀ call ∈ calls, Text.isIdentifier call.name = true ∧
      ∀ argument ∈ call.args, argument ≠ .bare "" ∧ argument.Canonical expression.toList := by
  intro call member
  obtain ⟨step, among, found⟩ := exists_of_mem_mapM_ok read member
  obtain ⟨named, canonical⟩ := Call.canonical_of_ofStep found
  refine ⟨named, fun argument given => ?_⟩
  exact (canonical argument given).imp_right (·.mono (Text.infix_of_mem_split among))

theorem parsePipeline_canonical_escapes_and_nested_values :
    let expression := "f('a\\'|', [x , \x7bk: 18446744073709551615\x7d]) | g"
    let calls : List Call :=
      [⟨"f", [.str "a\\'|",
        .list [.bare "x", .map [("k", .number (.unsigned 18446744073709551615))]]]⟩, ⟨"g", []⟩]
    parsePipeline expression = .ok calls ∧
      ∀ call ∈ calls, Text.isIdentifier call.name = true ∧
        ∀ argument ∈ call.args, argument ≠ .bare "" ∧ argument.Canonical expression.toList := by
  intro expression calls
  have entries : Text.split ',' "k: 18446744073709551615".toList = ["k: 18446744073709551615".toList] := by
    decide +kernel
  have map : Argument.ofToken "\x7bk: 18446744073709551615\x7d".toList =
      .ok (.map [("k", .number (.unsigned 18446744073709551615))]) :=
    Argument.ofToken_eq_map (by rfl) (by rfl) (by rfl) entries
      (mapM_cons_ok (Argument.entryOf_eq (by rfl) (Argument.ofToken_of_atom rfl)) rfl) rfl
  have items : Text.split ',' "x , \x7bk: 18446744073709551615\x7d".toList =
      ["x".toList, "\x7bk: 18446744073709551615\x7d".toList] := by decide +kernel
  have list : Argument.ofToken "[x , \x7bk: 18446744073709551615\x7d]".toList =
      .ok (.list [.bare "x", .map [("k", .number (.unsigned 18446744073709551615))]]) :=
    Argument.ofToken_eq_list (by rfl) (by rfl) items
      (mapM_cons_ok (Argument.ofToken_of_bare rfl rfl rfl) <| mapM_cons_ok map rfl)
  have args : Argument.itemsOf "'a\\'|', [x , \x7bk: 18446744073709551615\x7d]".toList =
      .ok [.str "a\\'|", .list [.bare "x", .map [("k", .number (.unsigned 18446744073709551615))]]] := by
    have tokens : Text.split ',' "'a\\'|', [x , \x7bk: 18446744073709551615\x7d]".toList =
        ["'a\\'|'".toList, "[x , \x7bk: 18446744073709551615\x7d]".toList] := by decide +kernel
    rw [Argument.itemsOf_eq_mapM, tokens]
    exact mapM_cons_ok (Argument.ofToken_of_atom rfl) (mapM_cons_ok list rfl)
  have read : parsePipeline expression = .ok calls := by
    have steps : stepsOf expression =
        ["f('a\\'|', [x , \x7bk: 18446744073709551615\x7d])".toList, "g".toList] := by decide +kernel
    rw [parsePipeline_eq_mapM, steps]
    exact mapM_cons_ok
      (Call.ofStep_of_application? (by decide +kernel) (by decide +kernel) (by decide +kernel) args)
      (mapM_cons_ok rfl rfl)
  exact ⟨read, parsePipeline_canonical expression calls read⟩

end PipeQuery
