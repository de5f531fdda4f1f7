import PipeQuery.Proofs.Argument.Legible
import PipeQuery.Proofs.Calendar.Regular
import PipeQuery.Proofs.Text.Part

/-!
# Texts of values that have been read

A value that a token is read as is legible but for two things. The year of an instant may have more than
four digits, and the text of an item or an entry need not stand alone any more: trimming may have cut the
blank off an escape, a key ends at its first colon even inside of a string, and a string may be written
with another quote than it was read with.
-/

set_option autoImplicit false

namespace PipeQuery

namespace Argument

open Text

/-! ## What tokens are read as -/

/-- The values that a token may be read as, with what is known of them from reading it. -/
inductive ReadAs (token : List Char) : Argument → Prop where
  | bool (value : Bool) : ReadAs token (.bool value)
  | number {value : Number} : value.WellFormed → ReadAs token (.number value)
  | str {content : List Char} : unquote? (trim token) = some content →
      ReadAs token (.str (String.ofList content))
  | instant {value : Instant} : value.Regular → ReadAs token (.instant value)
  | list {inner : List Char} {items : List Argument} : itemsOf inner = .ok items →
      enclosed? '[' ']' (trim token) = some inner → ReadAs token (.list items)
  | map {inner : List Char} {entries : List (String × Argument)} : entriesOf inner = .ok entries →
      enclosed? '{' '}' (trim token) = some inner → ReadAs token (.map (Table.ofList entries))
  | bare : ReadAs token (.bare (String.ofList (trim token)))

theorem readAs_of_ofAtom? {token : List Char} {value : Argument}
    (found : ofAtom? (trim token) = some value) : ReadAs token value := by
  unfold ofAtom? at found
  split at found
  · cases found
    exact .bool true
  split at found
  · cases found
    exact .bool false
  split at found
  next number read =>
    cases found
    exact .number (Number.wellFormed_of_ofToken? read)
  split at found
  next unquoted =>
    cases found
    exact .str unquoted
  · obtain ⟨instant, read, rfl⟩ := Option.map_eq_some_iff.mp found
    exact .instant (Calendar.findsRegular_ofLiteral? (trim token) instant read)

theorem readAs_of_ofToken {token : List Char} {value : Argument} (read : ofToken token = .ok value) :
    ReadAs token value := by
  cases atom : ofAtom? (trim token) with
  | some other =>
      cases (ofToken_of_atom atom).symm.trans read
      exact readAs_of_ofAtom? atom
  | none =>
  cases inList : enclosed? '[' ']' (trim token) with
  | some inner =>
      rw [ofToken_of_list atom inList] at read
      cases all : itemsOf inner with
      | error error => simp [all, Except.map] at read
      | ok items =>
          simp only [all, Except.map, Except.ok.injEq] at read
          exact read ▸ .list all inList
  | none =>
  cases inMap : enclosed? '{' '}' (trim token) with
  | some inner =>
      rw [ofToken_of_map atom inList inMap] at read
      cases all : entriesOf inner with
      | error error => simp [all, Except.map] at read
      | ok entries =>
          simp only [all, Except.map, Except.ok.injEq] at read
          exact read ▸ .map all inMap
  | none =>
      rw [ofToken_of_bare atom inList inMap] at read
      cases read
      exact .bare

/-! ## Keys -/

theorem colon_not_mem_of_splitAtColon? {entry key value : List Char}
    (found : splitAtColon? entry = some (key, value)) : ':' ∉ key := by
  unfold splitAtColon? at found
  split at found
  · cases found
  · cases found
    intro member
    have before := List.mem_takeWhile_imp member
    simp at before

theorem eq_of_splitAtColon? {entry key value : List Char}
    (found : splitAtColon? entry = some (key, value)) : entry = key ++ ':' :: value := by
  unfold splitAtColon? at found
  split at found
  · cases found
  next first rest after =>
    cases found
    obtain rfl : first = ':' := by simpa [after] using List.head?_dropWhile_not (· != ':') entry
    rw [← after, List.takeWhile_append_dropWhile]

theorem infix_keyOf (key : List Char) : (keyOf key).toList <:+: key := by
  rw [keyOf, String.toList_ofList]
  cases found : unquote? (trim key) with
  | none => exact infix_trim key
  | some content => exact (infix_of_unquote? found).trans (infix_trim key)

theorem colon_not_mem_keyOf {key : List Char} (colonless : ':' ∉ key) : ':' ∉ (keyOf key).toList :=
  fun member => colonless ((infix_keyOf key).subset member)

theorem exists_parts_of_entryOf {text : List Char} {entry : String × Argument}
    (found : entryOf text = .ok entry) :
    ∃ key token, splitAtColon? text = some (key, token) ∧ entry.1 = keyOf key ∧
      ofToken token = .ok entry.2 := by
  unfold entryOf at found
  split at found
  · cases found
  next key token parts =>
    cases read : ofToken token with
    | error error => simp [read, Except.map] at found
    | ok value =>
        simp only [read, Except.map, Except.ok.injEq] at found
        subst found
        exact ⟨key, token, parts, rfl, read⟩

/-- The value of an entry stands in a token of its own, and its key has no colon. -/
theorem entryOf_spec {text : List Char} {entry : String × Argument} (found : entryOf text = .ok entry) :
    ':' ∉ entry.1.toList ∧ ∃ token, ofToken token = .ok entry.2 := by
  obtain ⟨key, token, parts, same, read⟩ := exists_parts_of_entryOf found
  exact ⟨same ▸ colon_not_mem_keyOf (colon_not_mem_of_splitAtColon? parts), token, read⟩

/-! ## Values -/

/-- The values whose texts are read as they are meant: years have four digits, and the text of each item
and each entry stands alone. -/
inductive Renderable : Argument → Prop where
  | bool (value : Bool) : Renderable (.bool value)
  | number (value : Number) : Renderable (.number value)
  | str (content : String) : Renderable (.str content)
  | instant {value : Instant} : value.InFourDigitYear → Renderable (.instant value)
  | list {items : List Argument} : (∀ item ∈ items, Renderable item) →
      (∀ item ∈ items, StandsAlone ',' item.chars) → Renderable (.list items)
  | map {entries : List (String × Argument)} : (∀ entry ∈ entries, Renderable entry.2) →
      (∀ entry ∈ entries, StandsAlone ',' (entryText entry)) → Renderable (.map entries)
  | bare (word : String) : Renderable (.bare word)

/-- Only a blank token is read as a value with an empty text. -/
theorem Legible.chars_ne_nil {token : List Char} {value : Argument} (legible : value.Legible)
    (read : ofToken token = .ok value) (nonblank : trim token ≠ []) : value.chars ≠ [] := by
  cases legible with
  | bool value => exact (piece_bool value).nonempty
  | number wellFormed => rw [chars]; exact (piece_number wellFormed).nonempty
  | str content => rw [chars]; exact List.cons_ne_nil _ _
  | instant legible => rw [chars]; exact (Instant.piece_text legible.year).nonempty
  | list => rw [chars]; exact List.cons_ne_nil _ _
  | map => rw [chars]; exact List.cons_ne_nil _ _
  | bare =>
      cases readAs_of_ofToken read
      rw [chars, String.toList_ofList]
      exact nonblank

/-- A renderable value that a token is read as is legible. -/
theorem Renderable.legible {token : List Char} {value : Argument} (renderable : value.Renderable)
    (read : ofToken token = .ok value) : value.Legible := by
  induction renderable generalizing token with
  | bool value => exact .bool value
  | number value =>
      cases readAs_of_ofToken read with
      | number wellFormed => exact .number wellFormed
  | str content => exact .str content
  | instant year =>
      cases readAs_of_ofToken read with
      | instant regular => exact .instant ⟨year, regular⟩
  | @list items _ alone legible =>
      cases readAs_of_ofToken read with
      | list all =>
          rw [itemsOf_eq_mapM] at all
          refine .list (fun item member => ?_) fun item member => ⟨?_, alone item member⟩
          · obtain ⟨piece, _, found⟩ := exists_of_mem_mapM_ok all member
            exact legible item member found
          · obtain ⟨piece, among, found⟩ := exists_of_mem_mapM_ok all member
            exact (legible item member found).chars_ne_nil found (trim_ne_nil_of_mem_split among)
  | map _ alone legible =>
      cases readAs_of_ofToken read with
      | @map _ written all =>
          rw [entriesOf_eq_mapM] at all
          refine .map (Table.sorted_ofList written) (fun entry member => ?_) (fun entry member => ?_) alone
          · obtain ⟨_, _, found⟩ := exists_of_mem_mapM_ok all (Table.mem_of_mem_ofList member)
            exact (entryOf_spec found).1
          · obtain ⟨_, _, found⟩ := exists_of_mem_mapM_ok all (Table.mem_of_mem_ofList member)
            obtain ⟨_, _, found⟩ := entryOf_spec found
            exact legible entry member found
  | bare word =>
      cases readAs_of_ofToken read with
      | bare =>
          refine .bare (by rw [String.toList_ofList]; exact trimmed_trim token) ?_
          rw [parseArgument, String.toList_ofList, ofToken_trim, read]

end Argument

/-- The text of a value that has been read is read as the same value, whatever the token was, if years
have four digits and the text of each item and each entry stands alone. -/
theorem parseArgument_display_of_read (token : String) (value : Argument)
    (read : parseArgument token = .ok value) (renderable : value.Renderable) :
    parseArgument value.display = .ok value := by
  rw [parseArgument, Argument.display, String.toList_ofList]
  exact (renderable.legible read).ofToken_chars

theorem parseArgument_display_of_leap_second_and_quotes :
    let value : Argument := .list [.instant ⟨1483228799, 10 ^ 9⟩, .str "a' \"b\" 'c", .map [("e", .bare "")]]
    parseArgument "[2016-12-31T23:59:60Z,'a' \"b\" 'c', \x7be: \x7d]" = .ok value ∧ value.Renderable ∧
      parseArgument value.display = .ok value := by
  intro value
  have entries : Text.split ',' "e: ".toList = ["e:".toList] := by decide
  have map : Argument.ofToken "\x7be: \x7d".toList = .ok (.map [("e", .bare "")]) :=
    Argument.ofToken_eq_map (by rfl) (by rfl) (by rfl) entries
      (mapM_cons_ok (Argument.entryOf_eq (by rfl) (Argument.ofToken_of_bare rfl rfl rfl)) rfl) rfl
  have items : Text.split ',' "2016-12-31T23:59:60Z,'a' \"b\" 'c', \x7be: \x7d".toList =
      ["2016-12-31T23:59:60Z".toList, "'a' \"b\" 'c'".toList, "\x7be: \x7d".toList] := by decide +kernel
  have read : parseArgument "[2016-12-31T23:59:60Z,'a' \"b\" 'c', \x7be: \x7d]" = .ok value :=
    Argument.ofToken_eq_list (by rfl) (by rfl) items
      (mapM_cons_ok (Argument.ofToken_of_atom rfl) <| mapM_cons_ok (Argument.ofToken_of_atom rfl) <|
        mapM_cons_ok map rfl)
  have string : Text.StandsAlone ',' (Argument.str "a' \"b\" 'c").chars :=
    @Text.standsAlone_quoted '\'' rfl _ ⟨by decide, by decide⟩ (by decide)
  have renderable : value.Renderable := by
    refine .list ?_ ?_
    · simp only [List.forall_mem_cons]
      refine ⟨.instant ⟨by decide, by decide⟩, .str _, .map ?_ ?_, by simp⟩
      · simp only [List.forall_mem_cons]
        exact ⟨.bare "", by simp⟩
      · simp only [List.forall_mem_cons]
        exact ⟨⟨by decide, by decide⟩, by simp⟩
    · simp only [List.forall_mem_cons]
      exact ⟨⟨by decide +kernel, by decide +kernel⟩, string, ⟨by decide, by decide⟩, by simp⟩
  exact ⟨read, renderable, parseArgument_display_of_read _ value read renderable⟩

/-- Balanced tokens whose values have texts that are read as something else: an escaped blank is cut off
and frees the escape for the comma, a colon in a string ends a key and leaves quotes on both sides of it, a
bar keeps a string from its own quote and the other one breaks it, and a year has five digits. -/
theorem parseArgument_display_reads_differently :
    (Text.isBalanced "[a\\ , b]".toList = true ∧
        parseArgument "[a\\ , b]" = .ok (.list [.bare "a\\", .bare "b"]) ∧
        parseArgument (Argument.list [.bare "a\\", .bare "b"]).display = .ok (.list [.bare "a\\, b"])) ∧
      (Text.isBalanced "\x7b\"a:b\": c, d: e\x7d".toList = true ∧
        parseArgument "\x7b\"a:b\": c, d: e\x7d" = .ok (.map [("\"a", .bare "b\": c"), ("d", .bare "e")]) ∧
        parseArgument (Argument.map [("\"a", .bare "b\": c"), ("d", .bare "e")]).display =
          .ok (.map [("\"a", .bare "b\": c, d: e")])) ∧
      (Text.isBalanced "['a' | \",\" 'b']".toList = true ∧
        parseArgument "['a' | \",\" 'b']" = .ok (.list [.str "a' | \",\" 'b"]) ∧
        parseArgument (Argument.list [.str "a' | \",\" 'b"]).display =
          .ok (.list [.str "a' | ", .str " 'b"])) ∧
      Text.isBalanced "+10000-01-01".toList = true ∧
        parseArgument "+10000-01-01" = .ok (.instant ⟨253402300800, 0⟩) ∧
        parseArgument (Argument.instant ⟨253402300800, 0⟩).display = .ok (.bare "+10000-01-01T00:00:00Z") := by
  have blank : Text.split ',' "a\\ , b".toList = ["a\\".toList, "b".toList] := by decide
  have noBlank : Text.split ',' "a\\, b".toList = ["a\\, b".toList] := by decide
  have colon : Text.split ',' "\"a:b\": c, d: e".toList = ["\"a:b\": c".toList, "d: e".toList] := by
    decide +kernel
  have quotes : Text.split ',' "'\"a': b\": c, d: e".toList = ["'\"a': b\": c, d: e".toList] := by
    decide +kernel
  have bar : Text.split ',' "'a' | \",\" 'b'".toList = ["'a' | \",\" 'b'".toList] := by decide +kernel
  have broken : Text.split ',' "\"a' | \",\" 'b\"".toList = ["\"a' | \"".toList, "\" 'b\"".toList] := by
    decide +kernel
  refine ⟨⟨by decide, ?_, ?_⟩, ⟨by decide +kernel, ?_, ?_⟩, ⟨by decide +kernel, ?_, ?_⟩, by decide,
    Argument.ofToken_of_atom rfl, Argument.ofToken_of_bare rfl rfl rfl⟩
  · exact Argument.ofToken_eq_list (by rfl) (by rfl) blank
      (mapM_cons_ok (Argument.ofToken_of_bare rfl rfl rfl) <|
        mapM_cons_ok (Argument.ofToken_of_bare rfl rfl rfl) rfl)
  · exact Argument.ofToken_eq_list (by rfl) (by rfl) noBlank
      (mapM_cons_ok (Argument.ofToken_of_bare rfl rfl rfl) rfl)
  · exact Argument.ofToken_eq_map (by rfl) (by rfl) (by rfl) colon
      (mapM_cons_ok (Argument.entryOf_eq (by rfl) (Argument.ofToken_of_bare rfl rfl rfl)) <|
        mapM_cons_ok (Argument.entryOf_eq (by rfl) (Argument.ofToken_of_bare rfl rfl rfl)) rfl) rfl
  · exact Argument.ofToken_eq_map (by rfl) (by rfl) (by rfl) quotes
      (mapM_cons_ok (Argument.entryOf_eq (by rfl) (Argument.ofToken_of_bare rfl rfl rfl)) rfl) rfl
  · exact Argument.ofToken_eq_list (by rfl) (by rfl) bar
      (mapM_cons_ok (Argument.ofToken_of_atom rfl) rfl)
  · exact Argument.ofToken_eq_list (by rfl) (by rfl) broken
      (mapM_cons_ok (Argument.ofToken_of_atom rfl) <| mapM_cons_ok (Argument.ofToken_of_atom rfl) rfl)

end PipeQuery
