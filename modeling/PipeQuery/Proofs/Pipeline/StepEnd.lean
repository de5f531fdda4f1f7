import PipeQuery.Proofs.Argument.Reader
import PipeQuery.Proofs.Pipeline.Composition

/-!
# Where the arguments of a step end

A step is checked for its net depth only. So an expression with a bracket or a string left open at its
end is rejected, but a step that closes a bracket it has not opened may open another one later instead.
The arguments of an accepted step end at the bracket that closes the first one if and only if nothing
between the two closes below its start.
-/

set_option autoImplicit false

namespace PipeQuery

namespace Text

/-! ## The depth along a text -/

namespace Scan

theorem depth_step_ge (scan : Scan) (c : Char) : scan.depth - 1 ≤ (scan.step c).depth := by
  fun_cases step scan c <;> grind

theorem nests_iff {scan : Scan} {text : List Char} :
    scan.nests text = true ↔ ∀ before, before <+: text → 0 ≤ (scan.walk before).depth := by
  induction text generalizing scan with
  | nil => simp [nests]
  | cons c text ih =>
      simp only [nests, Bool.and_eq_true, decide_eq_true_eq, ih]
      constructor
      · rintro ⟨above, later⟩ before inside
        rcases List.prefix_cons_iff.mp inside with rfl | ⟨rest, rfl, further⟩
        · exact above
        · exact later rest further
      · intro everywhere
        refine ⟨everywhere [] List.nil_prefix, fun before inside => ?_⟩
        exact everywhere (c :: before) (List.cons_prefix_cons.mpr ⟨rfl, inside⟩)

/-- A depth that starts at no negative value and is nowhere one below zero is nowhere negative, since no
character lowers it by more than one. -/
theorem nests_of_depth_ne {scan : Scan} {text : List Char} (above : 0 ≤ scan.depth)
    (nowhere : ∀ before, before <+: text → (scan.walk before).depth ≠ -1) : scan.nests text = true := by
  induction text generalizing scan with
  | nil => simpa [nests] using above
  | cons c text ih =>
      have lowered := depth_step_ge scan c
      have first := nowhere [c] (by simp)
      rw [walk_cons, walk_nil] at first
      have nested : (scan.step c).nests text = true := by
        refine ih (by omega) fun before inside => ?_
        exact nowhere (c :: before) (List.cons_prefix_cons.mpr ⟨rfl, inside⟩)
      simp [nests, above, nested]

end Scan

/-- The depth counted from the start of the text is zero at its end and nowhere between the two. -/
def ClosesAtEnd (text : List Char) : Prop :=
  (Scan.start.walk text).depth = 0 ∧
    ∀ before, before <+: text → before ≠ [] → before ≠ text → (Scan.start.walk before).depth ≠ 0

theorem depth_walk_opening {opening : Char} (opens : isOpening opening = true) (text : List Char) :
    (Scan.start.walk (opening :: text)).depth = (Scan.start.walk text).depth + 1 := by
  rw [Scan.walk_cons, Scan.step_opening opens, Scan.walk_deepen]
  rfl

/-- Brackets that leave nothing open end where the first of them closes if and only if the text between
them never closes below its start. -/
theorem closesAtEnd_bracketed_iff {opening closing : Char} {inner : List Char}
    (opens : isOpening opening = true)
    (settled : Scan.start.walk (opening :: (inner ++ [closing])) = .start) :
    ClosesAtEnd (opening :: (inner ++ [closing])) ↔ Scan.start.nests inner = true := by
  constructor
  · rintro ⟨-, opened⟩
    refine Scan.nests_of_depth_ne (show (0 : Int) ≤ 0 by decide) fun before inside closed => ?_
    have further : before <+: inner ++ [closing] := inside.trans (List.prefix_append _ _)
    refine opened (opening :: before) (List.cons_prefix_cons.mpr ⟨rfl, further⟩) (by simp) ?_ ?_
    · intro whole
      have shorter := inside.length_le
      have same := congrArg List.length whole
      simp at same
      omega
    · rw [depth_walk_opening opens, closed]
      rfl
  · intro nested
    refine ⟨by rw [settled]; rfl, fun before inside nonempty proper => ?_⟩
    rcases List.prefix_cons_iff.mp inside with rfl | ⟨later, rfl, further⟩
    · exact absurd rfl nonempty
    rcases List.prefix_concat_iff.mp further with rfl | within
    · exact absurd rfl proper
    have above := Scan.nests_iff.mp nested later within
    rw [depth_walk_opening opens]
    omega

end Text

/-! ## Steps with arguments -/

theorem Call.eq_of_application? {step name inner : List Char}
    (found : Call.application? step = some (name, inner)) :
    Text.isWord name = true ∧ ∃ blanks, Text.AllBlank blanks ∧
      step = name ++ (blanks ++ '(' :: (inner ++ [')'])) := by
  simp only [Call.application?, Option.ite_none_right_eq_some, Option.map_eq_some_iff,
    Prod.mk.injEq] at found
  obtain ⟨word, _, enclosed, rfl, rfl⟩ := found
  refine ⟨word, (step.dropWhile Text.isWordPart).takeWhile Text.isBlank, ?_, ?_⟩
  · exact fun c member => List.mem_takeWhile_imp member
  · rw [← Text.eq_of_enclosed? enclosed, Text.trimStart, List.takeWhile_append_dropWhile,
      List.takeWhile_append_dropWhile]

/-- The name of a step and the blanks after it mean nothing to the scan. -/
theorem Call.walk_of_application? {step name inner : List Char}
    (found : Call.application? step = some (name, inner)) :
    Text.Scan.start.walk step = Text.Scan.start.walk ('(' :: (inner ++ [')'])) := by
  obtain ⟨word, blanks, blank, rfl⟩ := Call.eq_of_application? found
  have ordinary (c : Char) (member : c ∈ name) : Text.isOrdinary c = true :=
    Text.isOrdinary_of_isPlain (Text.isPlain_of_isWordPart (Text.isWordPart_of_mem_word word c member))
  rw [Text.Scan.walk_append, Text.Scan.walk_ordinary ordinary rfl, Text.Scan.walk_append,
    Text.Scan.walk_blank blank]

/-- An expression that leaves a bracket, a string or an escape open is rejected. In an accepted one the
arguments of a step end where its first bracket closes if and only if nothing in them closes below their
start; otherwise they hold what follows that bracket as well. -/
theorem parsePipeline_steps_close_at_end (expression : String) :
    (Text.isBalanced expression.toList = false → ∃ error, parsePipeline expression = .error error) ∧
      ∀ calls, parsePipeline expression = .ok calls → ∀ step ∈ stepsOf expression, ∀ name inner,
        Call.application? step = some (name, inner) →
          (Text.ClosesAtEnd ('(' :: (inner ++ [')'])) ↔ Text.Scan.start.nests inner = true) := by
  constructor
  · intro unbalanced
    cases read : parsePipeline expression with
    | error error => exact ⟨error, rfl⟩
    | ok calls =>
        have balanced := Text.isBalanced_iff.mpr (walk_eq_start_of_parsePipeline read)
        simp [unbalanced] at balanced
  · intro calls accepted step member name inner found
    obtain ⟨call, read⟩ := exists_ok_of_mapM_ok accepted member
    have balanced := Call.isBalanced_of_ofStep read
    rw [Text.trim_eq_of_mem_split member, Text.isBalanced_iff,
      Call.walk_of_application? found] at balanced
    exact Text.closesAtEnd_bracketed_iff rfl balanced

theorem parsePipeline_step_beside_bracket_in_string :
    (∃ error, parsePipeline "f([x) | g()" = .error error) ∧
      parsePipeline "f(')') | g" = .ok [⟨"f", [.str ")"]⟩, ⟨"g", []⟩] ∧
      "f(')')".toList ∈ stepsOf "f(')') | g" ∧
      Call.application? "f(')')".toList = some ("f".toList, "')'".toList) ∧
      (Text.ClosesAtEnd ('(' :: ("')'".toList ++ [')'])) ↔
        Text.Scan.start.nests "')'".toList = true) := by
  have unbalanced : Text.isBalanced "f([x) | g()".toList = false := by decide
  have accepted : parsePipeline "f(')') | g" =
      .ok [⟨"f", [.str ")"]⟩, ⟨"g", []⟩] := by
    have steps : stepsOf "f(')') | g" = ["f(')')".toList, "g".toList] := by decide +kernel
    have items : Argument.itemsOf "')'".toList = .ok [.str ")"] :=
      Argument.itemsOf_of_atom (by decide +kernel) rfl
    rw [parsePipeline_eq_mapM, steps]
    exact mapM_cons_ok (Call.ofStep_of_application? (by decide) (by decide) (by decide) items)
      (mapM_cons_ok rfl rfl)
  have member : "f(')')".toList ∈ stepsOf "f(')') | g" := by decide +kernel
  have found : Call.application? "f(')')".toList = some ("f".toList, "')'".toList) := by decide
  exact ⟨(parsePipeline_steps_close_at_end "f([x) | g()").1 unbalanced, accepted, member, found,
    (parsePipeline_steps_close_at_end "f(')') | g").2 _ accepted _ member _ _ found⟩

/-- A step whose arguments are one token of no other form is a call with a bare word. -/
theorem parsePipeline_of_bare {expression : String} {step name inner : List Char}
    (single : stepsOf expression = [step]) (balanced : Text.isBalanced step = true)
    (found : Call.application? step = some (name, inner)) (whole : Text.split ',' inner = [inner])
    (noAtom : Argument.ofAtom? inner = none) (notInList : Text.enclosed? '[' ']' inner = none)
    (notInMap : Text.enclosed? '{' '}' inner = none) :
    parsePipeline expression = .ok [⟨String.ofList name, [.bare (String.ofList inner)]⟩] := by
  have trimmedStep : Text.trim step = step := Text.trim_eq_of_mem_split (single ▸ List.mem_cons_self)
  have trimmed : Text.trim inner = inner := Text.trim_eq_of_mem_split (whole ▸ List.mem_cons_self)
  have word : Argument.ofToken inner = .ok (.bare (String.ofList inner)) := by
    rw [Argument.ofToken_of_bare (by rwa [trimmed]) (by rwa [trimmed]) (by rwa [trimmed]), trimmed]
  have items := Argument.itemsOf_of_single whole word
  rw [parsePipeline_eq_mapM, single]
  exact mapM_cons_ok (Call.ofStep_of_application? trimmedStep balanced found items) rfl

/-- A closing bracket too many takes the next step into the arguments of its own, if that step has an
opening one too many. So does a bar left out between two steps. -/
theorem parsePipeline_step_takes_next_one_in :
    (parsePipeline "f(x)) | g((y)" = .ok [⟨"f", [.bare "x)) | g((y"]⟩] ∧
        "f(x)) | g((y)".toList ∈ stepsOf "f(x)) | g((y)" ∧
        Call.application? "f(x)) | g((y)".toList = some ("f".toList, "x)) | g((y".toList) ∧
        ¬ Text.ClosesAtEnd ('(' :: ("x)) | g((y".toList ++ [')']))) ∧
      parsePipeline "f(x) g(y)" = .ok [⟨"f", [.bare "x) g(y"]⟩] ∧
        "f(x) g(y)".toList ∈ stepsOf "f(x) g(y)" ∧
        Call.application? "f(x) g(y)".toList = some ("f".toList, "x) g(y".toList) ∧
        ¬ Text.ClosesAtEnd ('(' :: ("x) g(y".toList ++ [')'])) := by
  have strayBrackets : stepsOf "f(x)) | g((y)" = ["f(x)) | g((y)".toList] := by decide +kernel
  have noBar : stepsOf "f(x) g(y)" = ["f(x) g(y)".toList] := by decide +kernel
  have takenIn : Call.application? "f(x)) | g((y)".toList = some ("f".toList, "x)) | g((y".toList) := by decide
  have joined : Call.application? "f(x) g(y)".toList = some ("f".toList, "x) g(y".toList) := by decide
  refine ⟨⟨?_, strayBrackets ▸ List.mem_cons_self, takenIn, fun closes => ?_⟩,
    ?_, noBar ▸ List.mem_cons_self, joined, fun closes => ?_⟩
  · exact parsePipeline_of_bare strayBrackets (by decide) takenIn (by decide +kernel) rfl rfl rfl
  · exact closes.2 "(x)".toList (by decide) (by decide) (by decide) (by decide)
  · exact parsePipeline_of_bare noBar (by decide) joined (by decide +kernel) rfl rfl rfl
  · exact closes.2 "(x)".toList (by decide) (by decide) (by decide) (by decide)

end PipeQuery
