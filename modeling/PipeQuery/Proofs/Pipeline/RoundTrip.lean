import PipeQuery.Proofs.Argument.WellFormed
import PipeQuery.Proofs.Pipeline.Composition

/-!
# Texts of calls read back

The text of a well-formed call is one piece for the bar, whatever bars its arguments hold, and reads back
as the call. So the text of a pipeline reads back as its calls in order.
-/

set_option autoImplicit false

namespace PipeQuery

open Text

namespace Call

/-! ## Names with texts in parentheses -/

section Application

variable {name inner : List Char} (isWord : Text.isWord name = true)

include isWord

theorem piece_application (closed : Closed inner) : Piece '|' (name ++ '(' :: (inner ++ [')'])) :=
  (Argument.piece_of_word rfl isWord).joined [] (by simp) (by simp) (.bracketed rfl rfl rfl closed)

theorem application?_application (inner : List Char) :
    application? (name ++ '(' :: (inner ++ [')'])) = some (name, inner) := by
  have parts := isWordPart_of_mem_word isWord
  have word : (name ++ '(' :: (inner ++ [')'])).takeWhile isWordPart = name := by
    rw [List.takeWhile_append_of_pos parts, List.takeWhile_cons_of_neg (by decide), List.append_nil]
  have arguments : (name ++ '(' :: (inner ++ [')'])).dropWhile isWordPart = '(' :: (inner ++ [')']) := by
    rw [List.dropWhile_append_of_pos parts, List.dropWhile_cons_of_neg (by decide)]
  have start : trimStart ('(' :: (inner ++ [')'])) = '(' :: (inner ++ [')']) :=
    List.dropWhile_cons_of_neg (by decide)
  simp only [application?, word, isWord, arguments, start, enclosed?_of_both, if_true, Option.map_some]

/-- A name with a closed text in parentheses is a call of the name with the items of the text. -/
theorem ofStep_application (closed : Closed inner) {args : List Argument}
    (read : Argument.itemsOf inner = .ok args) :
    ofStep (name ++ '(' :: (inner ++ [')'])) = .ok ⟨String.ofList name, args⟩ := by
  have piece := piece_application isWord closed
  have balanced := isBalanced_iff.mpr piece.closed.settled
  exact ofStep_of_application? piece.trimmed.trim_eq balanced (application?_application isWord inner) read

end Application

section Step

variable {call : Call}

theorem closed_itemTexts (wellFormed : call.WellFormed) : Closed (Argument.itemTexts call.args) := by
  rw [Argument.itemTexts_eq_intercalate]
  refine closed_intercalate Argument.closed_separator ?_
  simp only [List.forall_mem_map]
  exact fun argument member => (wellFormed.args argument member).piece.closed

theorem piece_chars (wellFormed : call.WellFormed) : Piece '|' call.chars :=
  piece_application wellFormed.name (closed_itemTexts wellFormed)

theorem ofStep_chars (wellFormed : call.WellFormed) : ofStep call.chars = .ok call := by
  have args : Argument.itemsOf (Argument.itemTexts call.args) = .ok call.args := by
    rw [Argument.itemsOf_eq_mapM, Argument.WellFormed.split_itemTexts wellFormed.args,
      mapM_read_back fun argument member => (wellFormed.args argument member).ofToken_chars]
  have read := ofStep_application wellFormed.name (closed_itemTexts wellFormed) args
  rwa [String.ofList_toList] at read

end Step

end Call

theorem stepsOf_of_intercalate {expression : String} {steps : List (List Char)}
    (spelled : expression.toList = " | ".toList.intercalate steps) (pieces : ∀ step ∈ steps, Piece '|' step) :
    stepsOf expression = steps := by
  rw [stepsOf, spelled]
  exact split_intercalate rfl rfl allBlank_space allBlank_space pieces

theorem stepsOf_pipelineText {calls : List Call} (wellFormed : ∀ call ∈ calls, call.WellFormed) :
    stepsOf (pipelineText calls) = calls.map Call.chars := by
  have texts : calls.map Call.display = (calls.map Call.chars).map String.ofList := by
    rw [List.map_map]
    rfl
  refine stepsOf_of_intercalate ?_ ?_
  · rw [pipelineText, texts, toList_intercalate_ofList]
  · simp only [List.forall_mem_map]
    exact fun call member => Call.piece_chars (wellFormed call member)

/-- Printing then reading gives a pipeline back, for values of any nesting. -/
theorem parsePipeline_pipelineText (calls : List Call) (wellFormed : ∀ call ∈ calls, call.WellFormed) :
    parsePipeline (pipelineText calls) = .ok calls := by
  rw [parsePipeline_eq_mapM, stepsOf_pipelineText wellFormed]
  exact mapM_read_back fun call member => Call.ofStep_chars (wellFormed call member)

theorem parsePipeline_nested_values :
    parsePipeline
        ("keep([-1, 'say \"hi\" | bye', []], \x7b\"a b\": 2017-07-14T02:40:00.250Z, max: -0.5\x7d, f(x, y))" ++
          " | reverse()") =
      .ok [⟨"keep", [.list [.number (.signed (-1)), .str "say \"hi\" | bye", .list []],
          .map [("a b", .instant ⟨1500000000, 250000000⟩),
            ("max", .number (.float (.finite true (2 ^ 52) 1021 (by decide))))],
          .bare "f(x, y)"]⟩, ⟨"reverse", []⟩] := by
  refine Eq.trans (congrArg parsePipeline ?_) (parsePipeline_pipelineText _ ?_)
  · decide +kernel
  have quoted : Argument.WellFormed (.str "say \"hi\" | bye") := .str (.inr (by decide))
  have bare : Argument.WellFormed (.bare "f(x, y)") :=
    .bare (by decide) (by decide) (Argument.ofToken_of_bare rfl rfl rfl) ⟨by decide, by decide⟩ (by decide)
  have spaced : Argument.IsKey "a b" := .inr ⟨by decide, .inl (by decide)⟩
  have plain : Argument.IsKey "max" := .inl (by decide)
  have instant : Argument.WellFormed (.instant ⟨1500000000, 250000000⟩) :=
    .instant ⟨by decide, by decide, by decide⟩
  simp only [List.forall_mem_cons]
  refine ⟨⟨by decide, ?_⟩, ⟨by decide, by simp⟩, by simp⟩
  simp only [List.forall_mem_cons]
  refine ⟨.list ?_, .map ?_ ?_ ?_, bare, by simp⟩
  · simp only [List.forall_mem_cons]
    exact ⟨.number trivial, quoted, .list (by simp), by simp⟩
  · rw [Table.Sorted]
    decide
  · simp only [List.forall_mem_cons]
    exact ⟨spaced, plain, by simp⟩
  · simp only [List.forall_mem_cons]
    exact ⟨instant, .number rfl, by simp⟩

end PipeQuery
