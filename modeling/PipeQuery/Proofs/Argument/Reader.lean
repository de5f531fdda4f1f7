import PipeQuery.Argument.Reader
import PipeQuery.Proofs.Calendar.Literal
import PipeQuery.Proofs.Number.Text
import PipeQuery.Proofs.ReadEach

/-!
# The reader of values, form by form

What a token is read as follows from its form, and no two forms overlap: each kind is told from the kinds
before it by how its text starts. The key of an entry ends at the first colon.
-/

set_option autoImplicit false

namespace PipeQuery

namespace Argument

open Text

/-! ## The reader -/

theorem itemsOf_eq_mapM (inner : List Char) : itemsOf inner = (split ',' inner).mapM ofToken := by
  rw [itemsOf]
  simp

/-- The key and the value of one entry. -/
def entryOf (entry : List Char) : Except ReadError (String × Argument) :=
  match splitAtColon? entry with
  | none => .error (.entryWithoutColon (String.ofList entry))
  | some (key, value) => (ofToken value).map (fun argument => (keyOf key, argument))

theorem entriesOf_eq_mapM (inner : List Char) : entriesOf inner = (split ',' inner).mapM entryOf := by
  rw [entriesOf]
  refine (List.mapM_subtype ?_).trans (by rw [List.unattach_attach])
  intro entry member
  unfold entryOf
  split
  split <;> simp_all

section Reader

variable {token inner : List Char}

theorem ofToken_of_atom {value : Argument} (atom : ofAtom? (trim token) = some value) :
    ofToken token = .ok value := by
  rw [ofToken]
  simp only [atom]

theorem ofToken_of_list (noAtom : ofAtom? (trim token) = none)
    (inList : enclosed? '[' ']' (trim token) = some inner) :
    ofToken token = (itemsOf inner).map .list := by
  rw [ofToken]
  simp only [noAtom]
  split
  · next found => rw [Option.some.inj (found.symm.trans inList)]
  · next absent => cases absent.symm.trans inList

theorem ofToken_of_map (noAtom : ofAtom? (trim token) = none)
    (notInList : enclosed? '[' ']' (trim token) = none)
    (inMap : enclosed? '{' '}' (trim token) = some inner) :
    ofToken token = (entriesOf inner).map (fun entries => .map (Table.ofList entries)) := by
  rw [ofToken]
  simp only [noAtom]
  split
  · next found => cases found.symm.trans notInList
  · split
    · next found => rw [Option.some.inj (found.symm.trans inMap)]
    · next absent => cases absent.symm.trans inMap

theorem ofToken_of_bare (noAtom : ofAtom? (trim token) = none)
    (notInList : enclosed? '[' ']' (trim token) = none)
    (notInMap : enclosed? '{' '}' (trim token) = none) :
    ofToken token = .ok (.bare (String.ofList (trim token))) := by
  rw [ofToken]
  simp only [noAtom]
  split
  · next found => cases found.symm.trans notInList
  · split
    · next found => cases found.symm.trans notInMap
    · rfl

@[simp] theorem ofToken_trim (token : List Char) : ofToken (trim token) = ofToken token := by
  rw [ofToken, ofToken, trim_trim]

theorem ofToken_blank_append {blanks : List Char} (blank : AllBlank blanks) (token : List Char) :
    ofToken (blanks ++ token) = ofToken token := by
  rw [ofToken, ofToken, trim_blank_append blank]

theorem ofToken_eq_list {pieces : List (List Char)} {items : List Argument}
    (noAtom : ofAtom? (trim token) = none) (inList : enclosed? '[' ']' (trim token) = some inner)
    (cut : split ',' inner = pieces) (reads : pieces.mapM ofToken = .ok items) :
    ofToken token = .ok (.list items) := by
  rw [ofToken_of_list noAtom inList, itemsOf_eq_mapM, cut, reads]
  rfl

theorem ofToken_eq_map {pieces : List (List Char)} {entries : List (String × Argument)}
    {table : Table Argument} (noAtom : ofAtom? (trim token) = none)
    (notInList : enclosed? '[' ']' (trim token) = none)
    (inMap : enclosed? '{' '}' (trim token) = some inner) (cut : split ',' inner = pieces)
    (reads : pieces.mapM entryOf = .ok entries) (put : Table.ofList entries = table) :
    ofToken token = .ok (.map table) := by
  rw [ofToken_of_map noAtom notInList inMap, entriesOf_eq_mapM, cut, reads, ← put]
  rfl

/-- A text without a comma of its own is the only item of its list. -/
theorem itemsOf_of_single {value : Argument} (whole : split ',' inner = [inner])
    (read : ofToken inner = .ok value) : itemsOf inner = .ok [value] := by
  rw [itemsOf_eq_mapM, whole]
  exact mapM_cons_ok read rfl

theorem itemsOf_of_atom {value : Argument} (whole : split ',' inner = [inner])
    (atom : ofAtom? inner = some value) : itemsOf inner = .ok [value] := by
  have trimmed : trim inner = inner := trim_eq_of_mem_split (whole ▸ List.mem_cons_self)
  exact itemsOf_of_single whole (ofToken_of_atom (by rwa [trimmed]))

theorem entryOf_eq {text key : List Char} {value : Argument} (parts : splitAtColon? text = some (key, token))
    (read : ofToken token = .ok value) : entryOf text = .ok (keyOf key, value) := by
  simp only [entryOf, parts, read]
  rfl

end Reader

/-! ## What each kind starts with -/

/-- A token that starts with none of the two letters is no truth value. -/
theorem ofAtom?_cons {first : Char} (letters : first ∉ ['t', 'f']) (rest : List Char) :
    ofAtom? (first :: rest) =
      match Number.ofToken? (first :: rest) with
      | some value => some (.number value)
      | none =>
        match unquote? (first :: rest) with
        | some content => some (.str (String.ofList content))
        | none => (Calendar.ofLiteral? (first :: rest)).map .instant := by
  simp only [List.mem_cons, List.not_mem_nil, or_false, not_or] at letters
  have notTrue : (first :: rest == "true".toList) = false := by
    simp [letters.1]
  have notFalse : (first :: rest == "false".toList) = false := by
    simp [letters.2]
  rw [ofAtom?, notTrue, notFalse]
  rfl

theorem number_eq_none_of_mark {first : Char} (mark : first ∈ marks) (rest : List Char) :
    Number.ofToken? (first :: rest) = none := by
  have unlike : ∀ mark ∈ marks, isDigit mark = false ∧ mark ∉ ['+', '-', '.', 'e', 'E'] ∧
      mark.toLower ∉ ['n', 'i'] := by
    simp only [marks, List.forall_mem_cons, List.not_mem_nil, false_implies, implies_true, and_true]
    decide
  obtain ⟨digit, signs, letters⟩ := unlike first mark
  exact Number.ofToken?_eq_none_of_first rest digit signs letters

theorem ofAtom?_of_mark {first : Char} (mark : first ∈ marks) (rest : List Char) :
    ofAtom? (first :: rest) =
      match unquote? (first :: rest) with
      | some content => some (.str (String.ofList content))
      | none => (Calendar.ofLiteral? (first :: rest)).map .instant := by
  have letters : ∀ mark ∈ marks, mark ∉ ['t', 'f'] := by simp [marks]
  rw [ofAtom?_cons (letters first mark), number_eq_none_of_mark mark]

theorem ofAtom?_number {number : Number} (wellFormed : number.WellFormed) :
    ofAtom? number.text = some (.number number) := by
  have read := Number.ofToken?_text wellFormed
  cases text : number.text with
  | nil => rw [text] at read; cases read
  | cons first rest =>
      have numeral : isNumeral first = true := Number.isNumeral_of_mem_text wellFormed (by simp [text])
      rw [ofAtom?_cons (not_mem_of_class numeral rfl), ← text, read]

theorem ofAtom?_quoted (content : List Char) :
    ofAtom? (quoted content) = some (.str (String.ofList content)) := by
  have mark := mem_marks_of_isQuote (isQuote_quoteFor content)
  have shape : quoted content = quoteFor content :: (content ++ [quoteFor content]) := rfl
  rw [shape, ofAtom?_of_mark mark, ← shape, unquote?_quoted content]

theorem ofAtom?_instant {instant : Instant} (legible : instant.Legible) :
    ofAtom? instant.text = some (.instant instant) := by
  obtain ⟨first, second, whole, rest, shape, digits⟩ := Instant.text_start legible.year
  have digit : isDigit first = true := digits first (by simp)
  have read := Calendar.ofLiteral?_text legible
  rw [shape] at read ⊢
  have number := Number.ofToken?_eq_none_of_hyphen rest digits
  have unquoted : first ∉ ['"', '\''] := not_mem_of_class digit rfl
  simp only [List.cons_append] at number read ⊢
  rw [ofAtom?_cons (not_mem_of_class digit rfl), number,
    unquote?_eq_none _ (by simpa [isQuote] using unquoted), read]
  rfl

theorem ofAtom?_bracketed {opening : Char} (opens : isOpening opening = true) {rest : List Char}
    (trimmed : Trimmed (opening :: rest)) : ofAtom? (opening :: rest) = none := by
  have unquoted : isQuote opening = false := by
    rcases isOpening_iff.mp opens with rfl | rfl | rfl <;> rfl
  rw [ofAtom?_of_mark (mem_marks_of_isOpening opens), unquote?_eq_none rest unquoted,
    Calendar.ofLiteral?_eq_none_of_opening opens trimmed]
  rfl

/-! ## Entries -/

theorem splitAtColon?_append {key : List Char} (colonless : ':' ∉ key) (value : List Char) :
    splitAtColon? (key ++ ':' :: value) = some (key, value) := by
  have different : ∀ c ∈ key, (c != ':') = true := fun c member => by
    rw [bne_iff_ne]
    rintro rfl
    exact colonless member
  simp only [splitAtColon?, List.dropWhile_append_of_pos different, List.takeWhile_append_of_pos different]
  simp

end Argument

end PipeQuery
