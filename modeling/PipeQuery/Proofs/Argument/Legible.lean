import PipeQuery.Argument.Printer
import PipeQuery.Proofs.Argument.Reader
import PipeQuery.Proofs.Table

/-!
# Values whose texts read back

The text of a value reads back as the value if the texts of its items and entries stand alone, and if it
has no instants outside of the years of four digits. How a string or a key is quoted does not matter:
the outermost quotes are taken off whatever stands between them.
-/

set_option autoImplicit false

namespace PipeQuery

namespace Argument

open Text

/-! ## Texts of parts -/

/-- The text of an entry: its key, a colon and its value. -/
def entryText (entry : String × Argument) : List Char :=
  keyText entry.1 ++ ':' :: ' ' :: entry.2.chars

theorem itemTexts_eq_intercalate (items : List Argument) :
    itemTexts items = separator.intercalate (items.map chars) := by
  induction items with
  | nil => simp [itemTexts]
  | cons item items ih =>
      cases items with
      | nil => simp [itemTexts]
      | cons next items =>
          rw [itemTexts, ih]
          simp only [List.map_cons, List.intercalate_cons_cons]

theorem entryTexts_eq_intercalate (entries : List (String × Argument)) :
    entryTexts entries = separator.intercalate (entries.map entryText) := by
  induction entries with
  | nil => simp [entryTexts]
  | cons entry entries ih =>
      obtain ⟨key, value⟩ := entry
      cases entries with
      | nil => simp [entryTexts, entryText]
      | cons next entries =>
          rw [entryTexts, ih]
          simp [entryText, List.intercalate_cons_cons]

theorem separator_eq : separator = [] ++ ',' :: [' '] := rfl

/-! ## Keys -/

theorem unquote?_eq_none_of_word {word : List Char} (isWord : Text.isWord word = true) :
    unquote? word = none := by
  cases word with
  | nil => rfl
  | cons first rest =>
      have part := isWordPart_of_mem_word isWord first List.mem_cons_self
      have unquoted : first ∉ ['"', '\''] := not_mem_of_class part rfl
      apply unquote?_eq_none
      simpa [isQuote] using unquoted

theorem piece_of_word {separator : Char} (other : isPlain separator = false) {word : List Char}
    (isWord : Text.isWord word = true) : Piece separator word := by
  refine .plain other (fun c member => isPlain_of_isWordPart (isWordPart_of_mem_word isWord c member)) ?_
  rintro rfl
  cases isWord

theorem trimmed_keyText (key : String) : Trimmed (keyText key) ∧ keyText key ≠ [] := by
  unfold keyText
  split
  next word =>
    have piece : Piece ',' key.toList := piece_of_word rfl word
    exact ⟨piece.trimmed, piece.nonempty⟩
  next => exact ⟨trimmed_quoted key.toList, List.cons_ne_nil _ _⟩

theorem colon_not_mem_keyText {key : String} (colonless : ':' ∉ key.toList) : ':' ∉ keyText key := by
  unfold keyText
  split
  · exact colonless
  · have other : ':' ≠ quoteFor key.toList := by
      intro same
      have isQuote := isQuote_quoteFor key.toList
      rw [← same] at isQuote
      cases isQuote
    simp [quoted, colonless, other]

theorem keyOf_keyText (key : String) : keyOf (keyText key) = key := by
  rw [keyOf, (trimmed_keyText key).1.trim_eq]
  unfold keyText
  split
  next word =>
    have unquoted : unquote? key.toList = none := unquote?_eq_none_of_word word
    rw [unquoted, Option.getD_none, String.ofList_toList]
  next => rw [unquote?_quoted, Option.getD_some, String.ofList_toList]

/-! ## Entries -/

theorem trim_entryText (entry : String × Argument) :
    trim (entryText entry) = keyText entry.1 ++ ':' :: trimEnd (' ' :: entry.2.chars) := by
  obtain ⟨trimmed, nonempty⟩ := trimmed_keyText entry.1
  rw [entryText, trim, trimmed.trimStart_append nonempty, trimEnd_append_cons (by decide)]

/-- The text of an entry reads back as the entry, also where nothing stands for the value and the blank
after the colon is cut off. -/
theorem entryOf_trim_entryText {entry : String × Argument} (colonless : ':' ∉ entry.1.toList)
    (read : ofToken entry.2.chars = .ok entry.2) : entryOf (trim (entryText entry)) = .ok entry := by
  have value : ofToken (trimEnd (' ' :: entry.2.chars)) = .ok entry.2 := by
    rw [← ofToken_trim, trim_trimEnd, ofToken_trim, ← read]
    exact ofToken_blank_append allBlank_space entry.2.chars
  rw [trim_entryText, entryOf, splitAtColon?_append (colon_not_mem_keyText colonless)]
  simp only [value, keyOf_keyText]
  rfl

/-! ## Values -/

/-- The values whose texts read back. Strings may have any content, bare words have to read as
themselves, and the texts of items and entries have to stand alone. -/
inductive Legible : Argument → Prop where
  | bool (value : Bool) : Legible (.bool value)
  | number {value : Number} : value.WellFormed → Legible (.number value)
  | str (content : String) : Legible (.str content)
  | instant {value : Instant} : value.Legible → Legible (.instant value)
  | list {items : List Argument} : (∀ item ∈ items, Legible item) →
      (∀ item ∈ items, item.chars ≠ [] ∧ StandsAlone ',' item.chars) → Legible (.list items)
  | map {entries : Table Argument} : entries.Sorted → (∀ entry ∈ entries, ':' ∉ entry.1.toList) →
      (∀ entry ∈ entries, Legible entry.2) →
      (∀ entry ∈ entries, StandsAlone ',' (entryText entry)) → Legible (.map entries)
  | bare {word : String} : Trimmed word.toList → parseArgument word = .ok (.bare word) →
      Legible (.bare word)

theorem piece_number {number : Number} (wellFormed : number.WellFormed) : Piece ',' number.text := by
  refine .plain rfl (fun c member => isPlain_of_isNumeral (Number.isNumeral_of_mem_text wellFormed member)) ?_
  intro empty
  have read := Number.ofToken?_text wellFormed
  rw [empty] at read
  cases read

theorem piece_bool (value : Bool) : Piece ',' (bool value).chars := by
  cases value <;> exact piece_of_word rfl (by decide)

theorem Legible.trimmed {value : Argument} (legible : value.Legible) : Trimmed value.chars := by
  cases legible with
  | bool value => exact (piece_bool value).trimmed
  | number wellFormed => rw [chars]; exact (piece_number wellFormed).trimmed
  | str content => rw [chars]; exact trimmed_quoted content.toList
  | instant legible => rw [chars]; exact (Instant.piece_text legible.year).trimmed
  | list => rw [chars]; exact trimmed_between (by decide) (by decide) _
  | map => rw [chars]; exact trimmed_between (by decide) (by decide) _
  | bare trimmed => rw [chars]; exact trimmed

theorem split_itemTexts {items : List Argument} (trimmed : ∀ item ∈ items, Trimmed item.chars)
    (alone : ∀ item ∈ items, item.chars ≠ [] ∧ StandsAlone ',' item.chars) :
    split ',' (itemTexts items) = items.map chars := by
  rw [itemTexts_eq_intercalate, separator_eq]
  apply split_intercalate_of_trimmed rfl rfl allBlank_nil allBlank_space
  · simp only [List.forall_mem_map]
    exact fun item member => (alone item member).2
  · simp only [List.forall_mem_map]
    exact fun item member => ⟨trimmed item member, (alone item member).1⟩

theorem split_entryTexts {entries : Table Argument}
    (alone : ∀ entry ∈ entries, StandsAlone ',' (entryText entry)) :
    split ',' (entryTexts entries) = entries.map fun entry => trim (entryText entry) := by
  have each : ∀ text ∈ entries.map entryText, StandsAlone ',' text := List.forall_mem_map.mpr alone
  rw [entryTexts_eq_intercalate, separator_eq,
    split_intercalate_of_standsAlone rfl rfl allBlank_nil allBlank_space each, List.map_map]
  refine List.filter_eq_self.mpr (List.forall_mem_map.mpr fun entry _ => ?_)
  simp [trim_entryText]

theorem ofToken_chars_map (entries : Table Argument) : ofToken (map entries).chars =
    (entriesOf (entryTexts entries)).map (fun read => .map (Table.ofList read)) := by
  have trimmed : Trimmed ('{' :: (entryTexts entries ++ ['}'])) := trimmed_between (by decide) (by decide) _
  rw [chars]
  refine ofToken_of_map ?_ ?_ ?_ <;> rw [trimmed.trim_eq]
  · exact ofAtom?_bracketed rfl trimmed
  · exact enclosed?_of_other _ _ (by decide)
  · exact enclosed?_of_both '{' '}' _

theorem Legible.ofToken_chars {value : Argument} (legible : value.Legible) :
    ofToken value.chars = .ok value := by
  induction legible with
  | bool value => cases value <;> exact ofToken_of_atom rfl
  | @number value wellFormed =>
      apply ofToken_of_atom
      rw [chars, (piece_number wellFormed).trimmed.trim_eq, ofAtom?_number wellFormed]
  | str content =>
      apply ofToken_of_atom
      rw [chars, (trimmed_quoted content.toList).trim_eq, ofAtom?_quoted, String.ofList_toList]
  | @instant value legible =>
      apply ofToken_of_atom
      rw [chars, (Instant.piece_text legible.year).trimmed.trim_eq, ofAtom?_instant legible]
  | @list items legible alone reads =>
      have trimmed := (Legible.list legible alone).trimmed
      rw [chars] at trimmed ⊢
      exact ofToken_eq_list (by rw [trimmed.trim_eq]; exact ofAtom?_bracketed rfl trimmed)
        (by rw [trimmed.trim_eq]; exact enclosed?_of_both '[' ']' _)
        (split_itemTexts (fun item member => (legible item member).trimmed) alone) (mapM_read_back reads)
  | @map entries sorted colonless legible alone reads =>
      have all := mapM_read_back fun entry member =>
        entryOf_trim_entryText (colonless entry member) (reads entry member)
      rw [ofToken_chars_map, entriesOf_eq_mapM, split_entryTexts alone, all, Except.map,
        Table.ofList_of_sorted sorted]
  | bare trimmed reads => exact reads

end Argument

end PipeQuery
