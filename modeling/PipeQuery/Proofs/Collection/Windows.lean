import PipeQuery.Proofs.Argument.IntegerLiteral
import PipeQuery.Proofs.Chain.Expression
import PipeQuery.Proofs.Collection.Counts
import PipeQuery.Proofs.Pipeline.RoundTrip

/-!
# Windows on the items

A step that takes a count is read with the count that its digits write, up to the greatest of sixty-four bits,
and an expression of such steps cuts the items down by one count after the other. So two such steps in a row
show a window on the items, and the first items and the others make up all of them.
-/

set_option autoImplicit false

namespace PipeQuery

open Text

theorem QueryMember.isWord_name (member : QueryMember) : isWord member.name.toList = true := by
  cases member <;> decide

/-! ## Steps that take counts -/

/-- A step that cuts the items down by a count, with the digits that the count is written in. -/
structure CountStep (α : Type) where
  member : QueryMember
  cut : Nat → List α → List α
  cuts : member.Cuts cut
  digits : String
  count : Nat
  numeral : Numeral 10 digits.toList count
  fits : count < 2 ^ 64

namespace CountStep

variable {α : Type} (step : CountStep α)

/-- The step as it is written. -/
def text : List Char :=
  step.member.name.toList ++ '(' :: (step.digits.toList ++ [')'])

/-- The call that the step is read as. -/
def call : Call :=
  step.member.call [.number (.ofUInt64 (UInt64.ofNat step.count))]

/-- What the step leaves of the items. -/
def left (items : List α) : List α :=
  step.cut step.count items

theorem closed_digits : Closed step.digits.toList :=
  closed_of_ordinary fun c member => isOrdinary_of_isPlain (isPlain_of_isDigit (step.numeral.isDigit c member))

theorem itemsOf_digits :
    Argument.itemsOf step.digits.toList = .ok [.number (.ofUInt64 (UInt64.ofNat step.count))] := by
  have plain : ∀ c ∈ step.digits.toList, isPlain c = true :=
    fun c member => isPlain_of_isDigit (step.numeral.isDigit c member)
  have piece : Piece ',' step.digits.toList := .plain rfl plain step.numeral.ne_nil
  have read := Number.ofToken?_of_signedNumeral (.unsigned step.numeral) (Number.ofInt?_natCast step.fits)
  exact Argument.itemsOf_of_single piece.split_eq (Argument.ofToken_of_number piece.trimmed read)

theorem ofStep_text : Call.ofStep step.text = .ok step.call := by
  have read := Call.ofStep_application step.member.isWord_name step.closed_digits step.itemsOf_digits
  rwa [String.ofList_toList] at read

/-- The expression is the steps with bars between them. -/
def Spells (expression : String) (steps : List (CountStep α)) : Prop :=
  expression.toList = " | ".toList.intercalate (steps.map text)

theorem parsePipeline_of_spells {expression : String} {steps : List (CountStep α)}
    (spelled : Spells expression steps) : parsePipeline expression = .ok (steps.map call) := by
  have pieces : ∀ written ∈ steps.map text, Piece '|' written := by
    simp only [List.forall_mem_map]
    exact fun step _ => Call.piece_application step.member.isWord_name step.closed_digits
  rw [parsePipeline_eq_mapM, stepsOf_of_intercalate spelled pieces]
  exact mapM_map_ok fun step _ => step.ofStep_text

theorem applies {μ ε : Type} [Record α] [Behaviour α μ ε] {express : QueryError → ε} {collection : Collection α μ}
    (offers : collection.Offers express step.member) (items : List α) :
    Chain.Applies { collection with items } step.call { collection with items := step.left items } := by
  have change := step.cuts.changeOf_number (Number.toUInt64?_ofUInt64 (UInt64.ofNat step.count))
  rw [UInt64.toNat_ofNat_of_lt' step.fits] at change
  exact offers.applies change items

end CountStep

namespace Collection

section Counts

variable {α μ ε : Type} [Record α] [Behaviour α μ ε] {express : QueryError → ε} {collection : Collection α μ}

omit [Record α] in
/-- Piping the expression succeeds and leaves the items. -/
def PipeLeaves (collection : Collection α μ) (expression : String) (items : List α) : Prop :=
  collection.pipe expression = ({ collection with items }, .ok ())

/-- An expression of steps that take counts cuts the items down by one count after the other. -/
theorem pipeLeaves_of_spells (unlimited : collection.limits = .unlimited) {expression : String}
    {steps : List (CountStep α)} (spelled : CountStep.Spells expression steps)
    (offers : ∀ step ∈ steps, collection.Offers express step.member) :
    collection.PipeLeaves expression (steps.foldl (fun items step => step.left items) collection.items) := by
  have applies : ∀ step ∈ steps, ∀ items, Chain.Applies { collection with items } step.call
      { collection with items := step.left items } :=
    fun step member items => step.applies (offers step member) items
  rw [PipeLeaves, pipe_eq_run unlimited, Chain.run_of_ok (CountStep.parsePipeline_of_spells spelled)]
  exact execute_steps collection steps applies

end Counts

/-! ## Windows -/

/-- The items at the positions from the first on up to the last, which is left out. -/
def window {α : Type} (first last : Nat) (items : List α) : List α :=
  (items.zipIdx.filter fun mark => first ≤ mark.2 && mark.2 < last).map Prod.fst

theorem map_filter_zipIdx {α : Type} (first last start : Nat) (items : List α) :
    ((items.zipIdx start).filter fun mark => first ≤ mark.2 && mark.2 < last).map Prod.fst =
      (items.take (last - start)).drop (first - start) := by
  induction items generalizing start with
  | nil => simp
  | cons item items ih =>
      have later := ih (start + 1)
      rw [List.zipIdx_cons, List.filter_cons]
      by_cases ended : last ≤ start
      · rw [Nat.sub_eq_zero_of_le (show last ≤ start + 1 by omega)] at later
        rw [Nat.sub_eq_zero_of_le ended, if_neg (by simp; omega), later]
        simp
      · rw [show last - start = last - (start + 1) + 1 by omega, List.take_succ_cons]
        by_cases before : start < first
        · rw [show first - start = first - (start + 1) + 1 by omega, List.drop_succ_cons,
            if_neg (by simp; omega), later]
        · rw [Nat.sub_eq_zero_of_le (show first ≤ start + 1 by omega), List.drop_zero] at later
          rw [Nat.sub_eq_zero_of_le (show first ≤ start by omega), List.drop_zero, if_pos (by simp; omega),
            List.map_cons, later]

theorem window_eq {α : Type} (first size : Nat) (items : List α) :
    window first (first + size) items = (items.drop first).take size := by
  rw [window, map_filter_zipIdx, List.drop_take]
  simp

section Windows

variable {α μ ε : Type} [Record α] [Behaviour α μ ε] {express : QueryError → ε} {collection : Collection α μ}

/-- Steps that drop and keep items show windows on the items: with both counts below the first number of
sixty-five bits, whatever zeros stand in front of them, dropping and then keeping leaves the items from the
first count on up to the sum of both, dropping twice leaves out as many items as the sum, and keeping twice
keeps the lesser count. What is kept by a count, before what is left by dropping as many, makes up the items. -/
theorem windows_compose_from_text (limits : collection.Offers express .limit)
    (offsets : collection.Offers express .offset) (unlimited : collection.limits = .unlimited)
    {first second : String} {n m : Nat} (firstCount : Numeral 10 first.toList n) (firstFits : n < 2 ^ 64)
    (secondCount : Numeral 10 second.toList m) (secondFits : m < 2 ^ 64) :
    collection.PipeLeaves ("offset(" ++ first ++ ") | limit(" ++ second ++ ")")
        (window n (n + m) collection.items) ∧
      collection.PipeLeaves ("offset(" ++ first ++ ") | offset(" ++ second ++ ")")
        (collection.items.drop (n + m)) ∧
      collection.PipeLeaves ("limit(" ++ first ++ ") | limit(" ++ second ++ ")")
        (collection.items.take (min n m)) ∧
      ∃ kept left, collection.PipeLeaves ("limit(" ++ first ++ ")") kept ∧
        collection.PipeLeaves ("offset(" ++ first ++ ")") left ∧ kept ++ left = collection.items := by
  let limitFirst : CountStep α := ⟨.limit, List.take, .limit, first, n, firstCount, firstFits⟩
  let limitSecond : CountStep α := ⟨.limit, List.take, .limit, second, m, secondCount, secondFits⟩
  let offsetFirst : CountStep α := ⟨.offset, List.drop, .offset, first, n, firstCount, firstFits⟩
  let offsetSecond : CountStep α := ⟨.offset, List.drop, .offset, second, m, secondCount, secondFits⟩
  have offers (steps : List (CountStep α)) : ∀ step ∈ steps, collection.Offers express step.member := by
    intro step _
    obtain ⟨member, cut, cuts, -⟩ := step
    cases cuts with
    | limit => exact limits
    | offset => exact offsets
  have piped {expression : String} {steps : List (CountStep α)} (spelled : CountStep.Spells expression steps) :=
    pipeLeaves_of_spells unlimited spelled (offers steps)
  refine ⟨?_, ?_, ?_, collection.items.take n, collection.items.drop n, ?_, ?_, ?_⟩
  · have spelled : CountStep.Spells ("offset(" ++ first ++ ") | limit(" ++ second ++ ")")
        [offsetFirst, limitSecond] := by
      simp [CountStep.Spells, CountStep.text, QueryMember.name, offsetFirst, limitSecond]
    rw [window_eq]
    exact piped spelled
  · have spelled : CountStep.Spells ("offset(" ++ first ++ ") | offset(" ++ second ++ ")")
        [offsetFirst, offsetSecond] := by
      simp [CountStep.Spells, CountStep.text, QueryMember.name, offsetFirst, offsetSecond]
    rw [← List.drop_drop]
    exact piped spelled
  · have spelled : CountStep.Spells ("limit(" ++ first ++ ") | limit(" ++ second ++ ")")
        [limitFirst, limitSecond] := by
      simp [CountStep.Spells, CountStep.text, QueryMember.name, limitFirst, limitSecond]
    rw [Nat.min_comm, ← List.take_take]
    exact piped spelled
  · have spelled : CountStep.Spells ("limit(" ++ first ++ ")") [limitFirst] := by
      simp [CountStep.Spells, CountStep.text, QueryMember.name, limitFirst]
    exact piped spelled
  · have spelled : CountStep.Spells ("offset(" ++ first ++ ")") [offsetFirst] := by
      simp [CountStep.Spells, CountStep.text, QueryMember.name, offsetFirst]
    exact piped spelled
  · exact List.take_append_drop n collection.items

theorem windows_of_counts_with_zeros_and_at_the_end :
    let collection : Collection Json QueryMember := queryable [.null, .bool true, .bool false, .null] .unlimited
    collection.PipeLeaves ("offset(" ++ "01" ++ ") | limit(" ++ "18446744073709551615" ++ ")")
        [.bool true, .bool false, .null] ∧
      collection.PipeLeaves ("offset(" ++ "01" ++ ") | offset(" ++ "18446744073709551615" ++ ")") [] ∧
      collection.PipeLeaves ("limit(" ++ "01" ++ ") | limit(" ++ "18446744073709551615" ++ ")") [.null] ∧
      ∃ kept left, collection.PipeLeaves ("limit(" ++ "01" ++ ")") kept ∧
        collection.PipeLeaves ("offset(" ++ "01" ++ ")") left ∧
        kept ++ left = [.null, .bool true, .bool false, .null] := by
  intro collection
  have one : Numeral 10 "01".toList 1 := numeral_of_readNat? (by decide) (by decide)
  have greatest : Numeral 10 "18446744073709551615".toList (2 ^ 64 - 1) :=
    numeral_of_readNat? (by decide) (by decide +kernel)
  exact windows_compose_from_text (offers_queryable collection.items .unlimited .limit)
    (offers_queryable collection.items .unlimited .offset) rfl one (by decide) greatest (by decide)

end Windows

end Collection

end PipeQuery
