import PipeQuery.Proofs.Argument.IntegerLiteral
import PipeQuery.Proofs.Json.Places
import PipeQuery.Record.Document

/-!
# Paths into documents

A path is read as the steps that it spells, and what it leads to is what stands at the end of the steps. So a
path reaches every string, truth value and number below the root of a document, unless a name on the way has a
dot in it, and nothing else; and a path after a dot is read as it would be from where the path before the dot
leads.
-/

set_option autoImplicit false

namespace PipeQuery

open Text

namespace Json

/-! ## Segments -/

theorem segments_ne_nil (path : List Char) : segments path ≠ [] := by
  cases path with
  | nil => simp [segments]
  | cons c rest =>
      rw [segments]
      split
      · simp
      · split <;> simp

theorem segments_append_dot (first second : List Char) :
    segments (first ++ '.' :: second) = segments first ++ segments second := by
  induction first with
  | nil => simp [segments]
  | cons c first ih =>
      rw [List.cons_append, segments, segments]
      split
      · rw [ih, List.cons_append]
      · rw [ih]
        cases found : segments first with
        | nil => exact absurd found (segments_ne_nil first)
        | cons segment others => rfl

theorem segments_of_not_mem {segment : List Char} (dotless : '.' ∉ segment) : segments segment = [segment] := by
  induction segment with
  | nil => rfl
  | cons c segment ih =>
      simp only [List.mem_cons, not_or] at dotless
      have different : (c == '.') = false := beq_eq_false_iff_ne.mpr (Ne.symm dotless.1)
      rw [segments, different, ih dotless.2]
      rfl

theorem eq_or_append_dot (path : List Char) :
    '.' ∉ path ∨ ∃ segment rest, '.' ∉ segment ∧ path = segment ++ '.' :: rest := by
  by_cases dotted : '.' ∈ path
  · obtain ⟨segment, rest, rfl, dotless⟩ := List.eq_append_cons_of_mem dotted
    exact .inr ⟨segment, rest, dotless, rfl⟩
  · exact .inl dotted

/-! ## Steps and the segments that spell them -/

/-- The segment spells the step: the name of a member as it is, or the position of an item in decimal digits,
perhaps after a plus. -/
inductive Step.SpelledBy : Step → List Char → Prop where
  | member {name : String} : (Step.member name).SpelledBy name.toList
  | item {digits : List Char} {position : UInt64} :
      Numeral 10 digits position.toNat → (Step.item position).SpelledBy digits
  | signedItem {digits : List Char} {position : UInt64} :
      Numeral 10 digits position.toNat → (Step.item position).SpelledBy ('+' :: digits)

/-- The path spells the steps, with a dot between each two. -/
inductive Spells : List Char → List Step → Prop where
  | last {segment : List Char} {step : Step} :
      '.' ∉ segment → step.SpelledBy segment → Spells segment [step]
  | more {segment path : List Char} {step : Step} {steps : List Step} :
      '.' ∉ segment → step.SpelledBy segment → Spells path steps →
      Spells (segment ++ '.' :: path) (step :: steps)

/-- What the steps that a path spells lead to. -/
def LeadsTo (document : Json) (path : String) (found : Json) : Prop :=
  ∃ steps, Spells path.toList steps ∧ document.Holds steps found

theorem spells_iff {path : List Char} {steps : List Step} :
    Spells path steps ↔ List.Forall₂ Step.SpelledBy steps (segments path) := by
  constructor
  · intro spelled
    induction spelled with
    | last dotless spelled =>
        rw [segments_of_not_mem dotless]
        exact .cons spelled .nil
    | more dotless spelled _ ih =>
        rw [segments_append_dot, segments_of_not_mem dotless]
        exact .cons spelled ih
  · intro spelled
    -- The first segment takes an unknown part of the path away, so the induction is on the length.
    induction length : path.length using Nat.strong_induction_on generalizing path steps with
    | _ bound ih =>
        rcases eq_or_append_dot path with dotless | ⟨segment, rest, dotless, rfl⟩
        · rw [segments_of_not_mem dotless] at spelled
          cases spelled with
          | cons first others =>
              cases others
              exact .last dotless first
        · rw [segments_append_dot, segments_of_not_mem dotless] at spelled
          have shorter : rest.length < bound := by
            rw [← length]
            simp
            omega
          cases spelled with
          | cons first others => exact .more dotless first (ih rest.length shorter others rfl)

theorem position?_of_spelled {segment : List Char} {position : UInt64}
    (spelled : (Step.item position).SpelledBy segment) : position? segment = some position.toNat := by
  have fits : position.toNat < 2 ^ 64 := position.toNat_lt
  cases spelled with
  | item numeral =>
      have unsigned : ∀ rest, segment ≠ '+' :: rest := by
        rintro rest rfl
        obtain ⟨digit, isDigit⟩ := numeral.exists_isDigitOf (c := '+') (by simp)
        exact not_isDigitOf_sign (by simp) (by decide) isDigit
      unfold position?
      split
      next rest => exact absurd rfl (unsigned rest)
      next => simp [readNat?_of_numeral (by decide) numeral, fits]
  | signedItem numeral => simp [position?, readNat?_of_numeral (by decide) numeral, fits]

theorem exists_spelled_of_position? {segment : List Char} {position : Nat}
    (found : position? segment = some position) :
    ∃ word : UInt64, word.toNat = position ∧ (Step.item word).SpelledBy segment := by
  unfold position? at found
  obtain ⟨read, fits⟩ := Option.filter_eq_some_iff.mp found
  have fits : position < 2 ^ 64 := of_decide_eq_true fits
  have value : (UInt64.ofNat position).toNat = position := UInt64.toNat_ofNat_of_lt' fits
  refine ⟨UInt64.ofNat position, value, ?_⟩
  split at read
  next rest => exact .signedItem (by rw [value]; exact numeral_of_readNat? (by decide) read)
  next => exact .item (by rw [value]; exact numeral_of_readNat? (by decide) read)

/-! ## Following a path -/

section Descent

variable {document : Json}

/-- A segment leads to what stands at a step that it spells. The kind of the document settles whether it is
looked up as a name or as a position. -/
theorem child?_eq_some_iff (distinct : document.HasDistinctNames) {segment : List Char} {child : Json} :
    document.child? segment = some child ↔ ∃ step : Step, step.SpelledBy segment ∧ document.Child step child := by
  constructor
  · intro found
    cases document with
    | object members =>
        have spelled := @Step.SpelledBy.member (String.ofList segment)
        rw [String.toList_ofList] at spelled
        exact ⟨_, spelled, .member (Table.mem_of_find? found)⟩
    | array items =>
        obtain ⟨position, read, item⟩ := Option.bind_eq_some_iff.mp found
        obtain ⟨word, value, spelled⟩ := exists_spelled_of_position? read
        exact ⟨_, spelled, .item (by rwa [value])⟩
    | _ => cases found
  · intro ⟨step, spelled, below⟩
    cases below with
    | member registered =>
        cases spelled with
        | member =>
            cases distinct with
            | object names _ =>
                rw [child?, String.ofList_toList]
                exact Table.find?_eq_some_of_mem names registered
    | item item =>
        rw [child?, position?_of_spelled spelled, Option.bind_some]
        exact item

theorem descend?_cons (segment : List Char) (path : List (List Char)) :
    document.descend? (segment :: path) = (document.child? segment).bind fun child => child.descend? path := by
  rw [descend?, List.foldlM_cons]
  rfl

/-- Segments lead to what stands at the end of steps that they spell one by one. -/
theorem descend?_eq_some_iff (distinct : document.HasDistinctNames) {path : List (List Char)} {found : Json} :
    document.descend? path = some found ↔
      ∃ steps, List.Forall₂ Step.SpelledBy steps path ∧ document.Holds steps found := by
  induction path generalizing document with
  | nil =>
      constructor
      · intro reached
        cases reached
        exact ⟨[], .nil, .root⟩
      · intro ⟨steps, spelled, reached⟩
        cases spelled
        cases reached
        rfl
  | cons segment path ih =>
      rw [descend?_cons]
      constructor
      · intro reached
        obtain ⟨child, one, later⟩ := Option.bind_eq_some_iff.mp reached
        obtain ⟨step, spelled, below⟩ := (child?_eq_some_iff distinct).mp one
        obtain ⟨steps, others, found⟩ := (ih (distinct.child below)).mp later
        exact ⟨step :: steps, .cons spelled others, .step below found⟩
      · intro ⟨steps, spelled, reached⟩
        cases spelled with
        | cons spelled others =>
            cases reached with
            | step below found =>
                rw [(child?_eq_some_iff distinct).mpr ⟨_, spelled, below⟩, Option.bind_some]
                exact (ih (distinct.child below)).mpr ⟨_, others, found⟩

theorem leadsTo_iff (distinct : document.HasDistinctNames) {path : String} {found : Json} :
    document.LeadsTo path found ↔ document.descend? (segments path.toList) = some found := by
  rw [descend?_eq_some_iff distinct, LeadsTo]
  simp only [spells_iff]

end Descent

/-! ## Values -/

/-- The document is a string, a truth value or a number, and the value is what it holds. An integer is a signed
word if one holds it, and an unsigned word else. -/
inductive HasValue : Json → FieldValue → Prop where
  | string {value : String} : HasValue (.string value) (.text value)
  | bool {value : Bool} : HasValue (.bool value) (.bool value)
  | signed {value : Int} {isWide : IsWideInt value} {word : Int64} :
      word.toInt = value → HasValue (.integer value isWide) (.number (.signed word))
  | unsigned {value : Int} {isWide : IsWideInt value} {word : UInt64} :
      2 ^ 63 ≤ value → (word.toNat : Int) = value → HasValue (.integer value isWide) (.number (.unsigned word))
  | fraction {value : Binary64} : HasValue (.fraction value) (.number (.float value))

/-- The document is a string, a truth value or a number. -/
inductive IsLeaf : Json → Prop where
  | string {value : String} : IsLeaf (.string value)
  | bool {value : Bool} : IsLeaf (.bool value)
  | integer {value : Int} {isWide : IsWideInt value} : IsLeaf (.integer value isWide)
  | fraction {value : Binary64} : IsLeaf (.fraction value)

/-- The document is an array or an object. -/
inductive IsCompound : Json → Prop where
  | array {items : List Json} : IsCompound (.array items)
  | object {members : List (String × Json)} : IsCompound (.object members)

section Values

variable {document found : Json} {value : FieldValue}

theorem IsLeaf.exists_hasValue (leaf : document.IsLeaf) :
    ∃ value, document.HasValue value ∧ document.scalar = value := by
  cases leaf with
  | string => exact ⟨_, .string, rfl⟩
  | bool => exact ⟨_, .bool, rfl⟩
  | @integer value isWide =>
      by_cases small : value < 2 ^ 63
      · obtain ⟨word, same, fits⟩ := Number.exists_signed_of_ofInt? isWide.1 small
        exact ⟨_, .signed same, by simp only [scalar, fits]⟩
      · obtain ⟨word, same, fits⟩ := Number.exists_unsigned_of_ofInt? (by omega) isWide.2
        exact ⟨_, .unsigned (by omega) same, by simp only [scalar, fits]⟩
  | fraction => exact ⟨_, .fraction, rfl⟩

theorem scalar_of_not_isLeaf (inner : ¬ document.IsLeaf) : document.scalar = .missing := by
  cases document with
  | string => exact absurd .string inner
  | bool => exact absurd .bool inner
  | integer => exact absurd .integer inner
  | fraction => exact absurd .fraction inner
  | null => rfl
  | array => rfl
  | object => rfl

theorem descend?_of_not_isCompound (simple : ¬ document.IsCompound) {path : List (List Char)}
    (nonempty : path ≠ []) : document.descend? path = none := by
  obtain ⟨segment, path, rfl⟩ := List.exists_cons_of_ne_nil nonempty
  rw [descend?_cons]
  cases document with
  | array => exact absurd .array simple
  | object => exact absurd .object simple
  | _ => rfl

end Values

/-! ## The path of steps -/

/-- The name of the member, or the position of the item in decimal digits. -/
def Step.text : Step → String
  | .member name => name
  | .item position => toString position.toNat

/-- The texts of the steps, with a dot between each two. -/
def pathOf (steps : List Step) : String :=
  ".".intercalate (steps.map Step.text)

theorem Step.spelledBy_text (step : Step) : step.SpelledBy step.text.toList := by
  cases step with
  | member name => exact .member
  | item position =>
      refine .item ?_
      rw [text, toList_toString_nat]
      exact numeral_natDigits position.toNat

theorem Step.dotless_text {step : Step} (dotless : ∀ name, step = .member name → '.' ∉ name.toList) :
    '.' ∉ step.text.toList := by
  cases step with
  | member name => exact dotless name rfl
  | item position =>
      intro dotted
      rw [text, toList_toString_nat] at dotted
      have digit := isDigit_of_mem_natDigits dotted
      cases digit

theorem spells_pathOf {steps : List Step} (nonempty : steps ≠ [])
    (dotless : ∀ name, Step.member name ∈ steps → '.' ∉ name.toList) : Spells (pathOf steps).toList steps := by
  rw [pathOf, String.toList_intercalate, List.map_map]
  induction steps with
  | nil => exact absurd rfl nonempty
  | cons step steps ih =>
      have first : '.' ∉ step.text.toList :=
        Step.dotless_text fun name same => dotless name (same ▸ List.mem_cons_self)
      cases steps with
      | nil =>
          rw [List.map_singleton, List.intercalate_singleton]
          exact .last first step.spelledBy_text
      | cons next steps =>
          have later := ih (List.cons_ne_nil _ _) fun name member =>
            dotless name (List.mem_cons_of_mem _ member)
          rw [List.map_cons, List.map_cons, List.intercalate_cons_cons, List.append_assoc]
          exact .more first step.spelledBy_text later

/-! ## Fields -/

section Fields

variable {document found : Json} {path : String}

theorem field_of_leadsTo (distinct : document.HasDistinctNames) (leads : document.LeadsTo path found) :
    Record.field document path = found.scalar := by
  have reached := (leadsTo_iff distinct).mp leads
  simp only [Record.field, field, reached]

theorem exists_leaf_of_field (distinct : document.HasDistinctNames) {value : FieldValue}
    (read : Record.field document path = value) (present : value ≠ .missing) :
    ∃ leaf, document.LeadsTo path leaf ∧ leaf.HasValue value := by
  cases reached : document.descend? (segments path.toList) with
  | none =>
      simp only [Record.field, field, reached] at read
      exact absurd read.symm present
  | some leaf =>
      have leads := (leadsTo_iff distinct).mpr reached
      rw [field_of_leadsTo distinct leads] at read
      by_cases scalar : leaf.IsLeaf
      · obtain ⟨_, holds, rfl⟩ := scalar.exists_hasValue
        exact ⟨leaf, leads, read ▸ holds⟩
      · rw [scalar_of_not_isLeaf scalar] at read
        exact absurd read.symm present

/-- A path after a dot is followed from where the path before it leads. -/
theorem field_append_dot (document : Json) (first second : String) :
    Record.field document (first ++ "." ++ second) =
      ((document.descend? (segments first.toList)).elim .missing fun found => Record.field found second) := by
  have whole : (first ++ "." ++ second).toList = first.toList ++ '.' :: second.toList := by simp
  have split : document.descend? (segments (first ++ "." ++ second).toList) =
      (document.descend? (segments first.toList)).bind fun found => found.descend? (segments second.toList) := by
    rw [whole, segments_append_dot, descend?, List.foldlM_append]
    rfl
  simp only [Record.field, field, split]
  cases document.descend? (segments first.toList) with
  | none => rfl
  | some found => rfl

/-- Paths into a document whose objects have distinct names reach what they spell. Every string, truth value
and number below the root is the field at its path, if no name on the way has a dot in it. Every field that is
not missing is such a value at the end of the path, and what else stands at the end of a path is missing. A path
after a dot is read in what the path before the dot leads to, and it is missing if that is no array and no
object. -/
theorem paths_reach_every_leaf_and_nothing_else (document : Json) (distinct : document.HasDistinctNames) :
    (∀ steps leaf, steps ≠ [] → document.Holds steps leaf → leaf.IsLeaf →
      (∀ name, Step.member name ∈ steps → '.' ∉ name.toList) →
      ∃ value, leaf.HasValue value ∧ Record.field document (pathOf steps) = value) ∧
    (∀ path value, Record.field document path = value → value ≠ .missing →
      ∃ leaf, document.LeadsTo path leaf ∧ leaf.HasValue value) ∧
    (∀ path found, document.LeadsTo path found → ¬ found.IsLeaf → Record.field document path = .missing) ∧
    ∀ first second,
      (∀ found, document.LeadsTo first found →
        Record.field document (first ++ "." ++ second) = Record.field found second) ∧
      ((∀ found, document.LeadsTo first found → ¬ found.IsCompound) →
        Record.field document (first ++ "." ++ second) = .missing) := by
  refine ⟨?_, ?_, ?_, ?_⟩
  · intro steps leaf nonempty reached isLeaf dotless
    obtain ⟨value, holds, read⟩ := isLeaf.exists_hasValue
    have leads : document.LeadsTo (pathOf steps) leaf := ⟨steps, spells_pathOf nonempty dotless, reached⟩
    exact ⟨value, holds, (field_of_leadsTo distinct leads).trans read⟩
  · intro path value read present
    exact exists_leaf_of_field distinct read present
  · intro path found leads inner
    rw [field_of_leadsTo distinct leads, scalar_of_not_isLeaf inner]
  · intro first second
    rw [field_append_dot]
    constructor
    · intro found leads
      rw [(leadsTo_iff distinct).mp leads]
      rfl
    · intro simple
      cases reached : document.descend? (segments first.toList) with
      | none => rfl
      | some found =>
          have below := descend?_of_not_isCompound (simple found ((leadsTo_iff distinct).mpr reached))
            (segments_ne_nil second.toList)
          simp only [Option.elim_some, Record.field, field, below]

end Fields

theorem paths_reach_values_below_empty_and_numeric_names :
    let leaf : Json := .integer 18446744073709551615 (by decide)
    let row : Json := .object [("", .object [("7", leaf)])]
    let document : Json := .object [("7", .string "x"), ("rows", .array [.null, row])]
    let steps : List Step := [.member "rows", .item 1, .member "", .member "7"]
    document.HasDistinctNames ∧ document.Holds steps leaf ∧ pathOf steps = "rows.1..7" ∧
      Record.field document "rows.1..7" = .number (.unsigned 18446744073709551615) ∧
      document.LeadsTo "rows.0" .null ∧ Record.field document "rows.0" = .missing ∧
      document.LeadsTo "rows.+1" row ∧
      Record.field document ("rows.+1" ++ "." ++ ".7") = Record.field row ".7" ∧
      Record.field document ("7" ++ "." ++ "rows") = .missing := by
  intro leaf row document steps
  have inner : HasDistinctNames (.object [("7", leaf)]) :=
    .object (by decide) (List.forall_mem_singleton.mpr .integer)
  have rows : HasDistinctNames (.array [.null, row]) := .array
    (List.forall_mem_cons.mpr ⟨.null, List.forall_mem_singleton.mpr
      (.object (by decide) (List.forall_mem_singleton.mpr inner))⟩)
  have distinct : document.HasDistinctNames :=
    .object (by decide) (List.forall_mem_cons.mpr ⟨.string, List.forall_mem_singleton.mpr rows⟩)
  obtain ⟨leaves, -, others, append⟩ := paths_reach_every_leaf_and_nothing_else document distinct
  have reached : document.Holds steps leaf := by
    have second : Child (.array [.null, row]) (.item 1) row := .item rfl
    have below : row.Holds [.member "", .member "7"] leaf :=
      .step (.member (.head _)) (.step (.member (.head _)) .root)
    exact .step (.member (.tail _ (.head _))) (.step second below)
  have dotless : ∀ name, Step.member name ∈ steps → '.' ∉ name.toList := by
    intro name member
    simp only [steps, List.mem_cons, Step.member.injEq, reduceCtorEq, List.not_mem_nil, or_false,
      false_or] at member
    rcases member with rfl | rfl | rfl <;> decide
  have path : pathOf steps = "rows.1..7" := by decide
  have atNull : document.LeadsTo "rows.0" .null := (leadsTo_iff distinct).mpr rfl
  have atRow : document.LeadsTo "rows.+1" row := (leadsTo_iff distinct).mpr rfl
  refine ⟨distinct, reached, path, ?_, atNull, others _ _ atNull nofun, atRow, (append _ _).1 row atRow, ?_⟩
  · obtain ⟨value, holds, read⟩ := leaves steps leaf (List.cons_ne_nil _ _) reached .integer dotless
    rw [path] at read
    subst leaf
    cases holds with
    | @signed _ _ word same =>
        have small := word.toInt_lt
        omega
    | @unsigned _ _ word _ same =>
        have largest : (18446744073709551615 : UInt64).toNat = 18446744073709551615 := rfl
        have word_eq : word = 18446744073709551615 := UInt64.toNat_inj.mp (by omega)
        rw [read, word_eq]
  · refine (append _ _).2 fun found leads compound => ?_
    have same : some (.string "x") = some found := (leadsTo_iff distinct).mp leads
    cases same
    cases compound

end Json

end PipeQuery
