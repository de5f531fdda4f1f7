import PipeQuery.Pipeline.Reader
import PipeQuery.Proofs.Argument.Reader
import PipeQuery.Proofs.Text.Split

/-!
# Reading expressions joined by a bar

An expression that can be read leaves the scan settled, whatever blanks, quotes, escapes and brackets it
holds. So a bar after it always ends its last step, and what follows the bar is read as if it stood
alone.
-/

set_option autoImplicit false

namespace PipeQuery

theorem Call.isBalanced_of_ofStep {step : List Char} {call : Call} (read : Call.ofStep step = .ok call) :
    Text.isBalanced (Text.trim step) = true := by
  cases balanced : Text.isBalanced (Text.trim step) with
  | true => rfl
  | false => simp [Call.ofStep, balanced] at read

theorem Call.ofStep_eq_map {step name inner : List Char} (trimmed : Text.trim step = step)
    (balanced : Text.isBalanced step = true) (found : Call.application? step = some (name, inner)) :
    Call.ofStep step = (Argument.itemsOf inner).map (fun args => ⟨String.ofList name, args⟩) := by
  simp only [Call.ofStep, trimmed, balanced, found]
  rfl

theorem Call.ofStep_of_application? {step name inner : List Char} {args : List Argument}
    (trimmed : Text.trim step = step) (balanced : Text.isBalanced step = true)
    (found : Call.application? step = some (name, inner)) (read : Argument.itemsOf inner = .ok args) :
    Call.ofStep step = .ok ⟨String.ofList name, args⟩ := by
  rw [Call.ofStep_eq_map trimmed balanced found, read]
  rfl

/-- A call that is read is written with arguments or is a name alone. -/
theorem Call.cases_of_ofStep {step : List Char} {call : Call} (read : Call.ofStep step = .ok call) :
    (∃ name inner, Call.application? (Text.trim step) = some (name, inner) ∧
        Argument.itemsOf inner = .ok call.args ∧ call.name = String.ofList name) ∨
      Text.isWord (Text.trim step) = true ∧ call = ⟨String.ofList (Text.trim step), []⟩ := by
  unfold Call.ofStep at read
  dsimp only at read
  split at read
  · cases read
  split at read
  next name inner found =>
    obtain ⟨args, all, rfl⟩ := map_eq_ok_iff.mp read
    exact .inl ⟨name, inner, found, all, rfl⟩
  next =>
    split at read
    next word =>
      cases read
      exact .inr ⟨word, rfl⟩
    next => cases read

@[simp] theorem parsePipeline_eq_mapM (expression : String) :
    parsePipeline expression = (stepsOf expression).mapM Call.ofStep := rfl

theorem walk_eq_start_of_parsePipeline {expression : String} {calls : List Call}
    (accepted : parsePipeline expression = .ok calls) :
    Text.Scan.start.walk expression.toList = .start := by
  apply Text.walk_eq_start_of_split (show Text.isOrdinary '|' = true by decide)
  intro step member
  obtain ⟨call, read⟩ := exists_ok_of_mapM_ok accepted member
  rw [← Text.trim_eq_of_mem_split member]
  exact Call.isBalanced_of_ofStep read

theorem stepsOf_append_blank (expression blanks : String) (blank : Text.AllBlank blanks.toList) :
    stepsOf (expression ++ blanks) = stepsOf expression := by
  rw [stepsOf, String.toList_append, Text.split_append_blank (by decide) blank, stepsOf]

theorem stepsOf_blank_append (expression blanks : String) (blank : Text.AllBlank blanks.toList) :
    stepsOf (blanks ++ expression) = stepsOf expression := by
  rw [stepsOf, String.toList_append, Text.split_blank_append (by decide) blank, stepsOf]

theorem stepsOf_append_bar {first : String} (second : String) {calls : List Call}
    (accepted : parsePipeline first = .ok calls) :
    stepsOf (first ++ "|" ++ second) = stepsOf first ++ stepsOf second := by
  have text : (first ++ "|" ++ second).toList = first.toList ++ '|' :: second.toList := by simp
  rw [stepsOf, text,
    Text.split_append_separator (by decide) (walk_eq_start_of_parsePipeline accepted) second.toList]
  rfl

theorem parsePipeline_append_bar {first : String} (second : String) {calls : List Call}
    (accepted : parsePipeline first = .ok calls) :
    parsePipeline (first ++ "|" ++ second) = (parsePipeline second).map (calls ++ ·) := by
  rw [parsePipeline_eq_mapM] at accepted
  rw [parsePipeline_eq_mapM, stepsOf_append_bar second accepted, List.mapM_append, accepted,
    parsePipeline_eq_mapM]
  cases (stepsOf second).mapM Call.ofStep <;> rfl

/-- Reading takes the bar to the concatenation of calls: once the first expression can be read, the
calls of the whole are its calls and those of the second, or the error is that of the second alone. -/
theorem parsePipeline_append_bar_homomorphism (first second before after : String)
    (calls : List Call) (accepted : parsePipeline first = .ok calls)
    (blankBefore : Text.AllBlank before.toList) (blankAfter : Text.AllBlank after.toList) :
    (∀ more, parsePipeline second = .ok more →
      parsePipeline (first ++ before ++ "|" ++ after ++ second) = .ok (calls ++ more)) ∧
      ∀ error, parsePipeline second = .error error →
        parsePipeline (first ++ before ++ "|" ++ after ++ second) = .error error := by
  have extended : parsePipeline (first ++ before) = .ok calls := by
    rw [parsePipeline_eq_mapM, stepsOf_append_blank first before blankBefore, ← accepted,
      parsePipeline_eq_mapM]
  have remaining : parsePipeline (after ++ second) = parsePipeline second := by
    rw [parsePipeline_eq_mapM, stepsOf_blank_append second after blankAfter, parsePipeline_eq_mapM]
  have whole : parsePipeline (first ++ before ++ "|" ++ after ++ second) =
      (parsePipeline second).map (calls ++ ·) := by
    rw [String.append_assoc, parsePipeline_append_bar _ extended, remaining]
  constructor
  · intro more read
    rw [whole, read]
    rfl
  · intro error read
    rw [whole, read]
    rfl

theorem parsePipeline_after_quoted_bar :
    parsePipeline ("a('|')" ++ " " ++ "|" ++ "\t" ++ "b | c") =
        .ok ([⟨"a", [.str "|"]⟩] ++ [⟨"b", []⟩, ⟨"c", []⟩]) ∧
      parsePipeline ("a('|')" ++ " " ++ "|" ++ "\t" ++ "b(") = .error (.malformedStep "b(") := by
  have accepted : parsePipeline "a('|')" = .ok [⟨"a", [.str "|"]⟩] := by
    have single : stepsOf "a('|')" = ["a('|')".toList] := by decide +kernel
    have items : Argument.itemsOf "'|'".toList = .ok [.str "|"] :=
      Argument.itemsOf_of_atom (by decide +kernel) rfl
    rw [parsePipeline_eq_mapM, single]
    exact mapM_cons_ok (Call.ofStep_of_application? (by decide) (by decide) (by decide) items) rfl
  have before : Text.AllBlank " ".toList := Text.allBlank_space
  have after : Text.AllBlank "\t".toList := by simp [Text.AllBlank, Text.isBlank]
  constructor
  · have read : parsePipeline "b | c" = .ok [⟨"b", []⟩, ⟨"c", []⟩] := rfl
    exact (parsePipeline_append_bar_homomorphism "a('|')" "b | c" " " "\t" _ accepted before after).1 _ read
  · have rejected : parsePipeline "b(" = .error (.malformedStep "b(") := rfl
    exact (parsePipeline_append_bar_homomorphism "a('|')" "b(" " " "\t" _ accepted before after).2 _ rejected

end PipeQuery
