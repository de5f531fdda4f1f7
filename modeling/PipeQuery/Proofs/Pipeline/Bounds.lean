import Mathlib.Data.String.Basic
import PipeQuery.Proofs.Argument.Rounds
import PipeQuery.Proofs.Argument.Size
import PipeQuery.Proofs.Pipeline.Limits
import PipeQuery.Proofs.Pipeline.StepEnd

/-!
# What the length of an expression bounds

An expression holds no more values than bytes. They are nested at most half as deep as it has bytes, and
half as many rounds of reading suffice for them. So a limit on the bytes is a limit on all of this as well.
-/

set_option autoImplicit false

namespace PipeQuery

/-- Each character takes a byte at least. -/
theorem Text.length_toList_le_utf8ByteSize (text : String) : text.toList.length ≤ text.utf8ByteSize := by
  have each (chars : List Char) : chars.length ≤ String.utf8Len chars := by
    induction chars with
    | nil => exact Nat.le_refl 0
    | cons c chars ih => exact Nat.add_le_add ih c.utf8Size_pos
  have size := String.utf8ByteSize_ofList text.toList
  rw [String.ofList_toList] at size
  rw [size]
  exact each text.toList

namespace Call

/-! ## One step -/

section Step

variable {step : List Char} {call : Call}

/-- A step with arguments has a name and two parentheses beside them. -/
theorem length_of_application? {name inner : List Char}
    (found : application? step = some (name, inner)) : inner.length + 3 ≤ step.length := by
  obtain ⟨word, blanks, -, rfl⟩ := eq_of_application? found
  have named : name ≠ [] := by
    rintro rfl
    cases word
  have nonempty := List.length_pos_of_ne_nil named
  simp only [List.length_append, List.length_cons, List.length_nil]
  omega

theorem length_of_application?_trim {name inner : List Char}
    (found : application? (Text.trim step) = some (name, inner)) : inner.length + 3 ≤ step.length :=
  (length_of_application? found).trans (Text.length_trim_le step)

theorem sum_size_le_of_ofStep (read : ofStep step = .ok call) :
    (call.args.map Argument.size).sum ≤ step.length := by
  rcases cases_of_ofStep read with ⟨name, inner, found, all, -⟩ | ⟨-, rfl⟩
  · have within := length_of_application?_trim found
    have inside := Argument.sum_size_le_of_itemsOf all fun _ _ _ found => Argument.size_le_of_ofToken found
    omega
  · exact Nat.zero_le _

theorem depth_le_of_ofStep (read : ofStep step = .ok call) {argument : Argument}
    (member : argument ∈ call.args) : argument.depth ≤ step.length / 2 := by
  rcases cases_of_ofStep read with ⟨name, inner, found, all, -⟩ | ⟨-, rfl⟩
  · rw [Argument.itemsOf_eq_mapM] at all
    obtain ⟨token, among, value⟩ := exists_of_mem_mapM_ok all member
    have within := length_of_application?_trim found
    have piece := Text.length_le_of_mem_split among
    have shallow := Argument.depth_le_of_ofToken value
    omega
  · cases member

end Step

end Call

/-! ## All steps -/

theorem length_le_of_mem_stepsOf {expression : String} {step : List Char}
    (member : step ∈ stepsOf expression) : step.length ≤ expression.utf8ByteSize :=
  (Text.length_le_of_mem_split member).trans (Text.length_toList_le_utf8ByteSize expression)

theorem length_calls_le {expression : String} {calls : List Call}
    (read : parsePipeline expression = .ok calls) : calls.length ≤ (stepsOf expression).length := by
  have counted : (calls.map fun _ => 1).sum ≤ ((stepsOf expression).map fun _ => 1).sum :=
    sum_le_of_mapM_ok read fun _ _ _ _ => Nat.le_refl 1
  simpa using counted

theorem sum_size_le_of_parsePipeline {expression : String} {calls : List Call}
    (read : parsePipeline expression = .ok calls) :
    ((calls.flatMap Call.args).map Argument.size).sum ≤ expression.utf8ByteSize := by
  have inside : (calls.map fun call => (call.args.map Argument.size).sum).sum ≤ expression.toList.length :=
    Text.sum_le_of_mapM_split read fun _ _ _ found => Call.sum_size_le_of_ofStep found
  have bytes := Text.length_toList_le_utf8ByteSize expression
  rw [List.map_flatMap, List.flatMap_def, List.sum_flatten, List.map_map]
  exact inside.trans bytes

/-- An expression that is read under limits has no more bytes and no more calls than they allow. Its
arguments are made of no more values than it has bytes, and lists and maps are nested no more than half as
deep. The values inside of a list or a map are read from tokens that lack two of its characters, and reading
depends on these only, so half as many rounds as there are bytes read every argument. -/
theorem limits_bound_values_and_rounds (limits : Limits) (expression : String) (calls : List Call)
    (read : parsePipelineWithin limits expression = .ok calls) :
    let bytes := expression.utf8ByteSize
    (∀ limit, limits.maxBytes = some limit → bytes ≤ limit) ∧
      (∀ limit, limits.maxSteps = some limit → calls.length ≤ limit) ∧
      ((calls.flatMap Call.args).map Argument.size).sum ≤ bytes ∧
      (∀ call ∈ calls, ∀ argument ∈ call.args, argument.depth ≤ bytes / 2) ∧
      (∀ token, (∀ part ∈ (Argument.formOf token).parts, part.length + 2 ≤ (Text.trim token).length) ∧
        ∀ reader, (∀ part ∈ (Argument.formOf token).parts, reader part = Argument.ofToken part) →
          (Argument.formOf token).value reader = Argument.ofToken token) ∧
      ∀ step ∈ stepsOf expression, ∀ name inner, Call.application? step = some (name, inner) →
        ∀ token ∈ Text.split ',' inner, ∀ otherwise,
          Argument.ofTokenWithin otherwise (bytes / 2) token = Argument.ofToken token := by
  intro bytes
  have allowed := not_rejected_of_within read
  have unlimited := parsePipeline_of_within read
  refine ⟨fun limit bound => ?_, fun limit bound => ?_, sum_size_le_of_parsePipeline unlimited,
    fun call member argument given => ?_,
    fun token => ⟨fun part => Argument.length_of_mem_parts, fun reader => Argument.value_formOf⟩,
    fun step member name inner found token among otherwise => ?_⟩
  · exact Nat.not_lt.mp fun beyond => allowed (.inl ⟨limit, bound, beyond⟩)
  · have few : (stepsOf expression).length ≤ limit :=
      Nat.not_lt.mp fun beyond => allowed (.inr (.inl ⟨limit, bound, beyond⟩))
    exact (length_calls_le unlimited).trans few
  · obtain ⟨step, among, found⟩ := exists_of_mem_mapM_ok unlimited member
    exact (Call.depth_le_of_ofStep found given).trans
      (Nat.div_le_div_right (length_le_of_mem_stepsOf among))
  · -- Three characters of the step are not the token's, which makes up for an odd number of bytes.
    have within := length_le_of_mem_stepsOf member
    have inside := Call.length_of_application? found
    have piece := Text.length_le_of_mem_split among
    exact Argument.ofTokenWithin_eq_ofToken otherwise (by omega)

theorem limits_bound_nested_map_beside_blank_step :
    let limits : Limits := { maxBytes := some 25, maxSteps := some 2 }
    let expression := "f(\x7bk: [[é], \x7b:\x7d]\x7d) | | g"
    let token := "\x7bk: [[é], \x7b:\x7d]\x7d".toList
    let value : Argument := .map [("k", .list [.list [.bare "é"], .map [("", .bare "")]])]
    let calls : List Call := [⟨"f", [value]⟩, ⟨"g", []⟩]
    parsePipelineWithin limits expression = .ok calls ∧ expression.utf8ByteSize ≤ 25 ∧
      calls.length ≤ 2 ∧ ((calls.flatMap Call.args).map Argument.size).sum ≤ 25 ∧ value.depth ≤ 12 ∧
      (∀ part ∈ (Argument.formOf token).parts, part.length + 2 ≤ (Text.trim token).length) ∧
      (Argument.formOf token).value Argument.ofToken = Argument.ofToken token ∧
      ∀ otherwise, Argument.ofTokenWithin otherwise 12 token = Argument.ofToken token := by
  intro limits expression token value calls
  have inner : Argument.ofToken "\x7b:\x7d".toList = .ok (.map [("", .bare "")]) :=
    Argument.ofToken_eq_map (by rfl) (by rfl) (by rfl) (show Text.split ',' [':'] = [[':']] by decide)
      (mapM_cons_ok (Argument.entryOf_eq (by rfl) (Argument.ofToken_of_bare rfl rfl rfl)) rfl) rfl
  have word : Argument.ofToken "[é]".toList = .ok (.list [.bare "é"]) :=
    Argument.ofToken_eq_list (by rfl) (by rfl) (show Text.split ',' ['é'] = [['é']] by decide)
      (mapM_cons_ok (Argument.ofToken_of_bare rfl rfl rfl) rfl)
  have items : Text.split ',' "[é], \x7b:\x7d".toList = ["[é]".toList, "\x7b:\x7d".toList] := by
    decide +kernel
  have list : Argument.ofToken " [[é], \x7b:\x7d]".toList =
      .ok (.list [.list [.bare "é"], .map [("", .bare "")]]) :=
    Argument.ofToken_eq_list (by rfl) (by rfl) items (mapM_cons_ok word (mapM_cons_ok inner rfl))
  have entries : Text.split ',' "k: [[é], \x7b:\x7d]".toList = ["k: [[é], \x7b:\x7d]".toList] := by
    decide +kernel
  have map : Argument.ofToken token = .ok value :=
    Argument.ofToken_eq_map (by rfl) (by rfl) (by rfl) entries
      (mapM_cons_ok (Argument.entryOf_eq (by rfl) list) rfl) rfl
  have whole : Text.split ',' token = [token] := by decide +kernel
  have steps : stepsOf expression = ["f(\x7bk: [[é], \x7b:\x7d]\x7d)".toList, "g".toList] := by
    decide +kernel
  have found : Call.application? "f(\x7bk: [[é], \x7b:\x7d]\x7d)".toList = some ("f".toList, token) := by
    decide +kernel
  have bytes : expression.utf8ByteSize = 25 := by decide +kernel
  have read : parsePipelineWithin limits expression = .ok calls := by
    have few : limits.checkSteps (stepsOf expression).length = .ok () := by rw [steps]; rfl
    have short : limits.checkLength expression = .ok () := by
      rw [Limits.checkLength, bytes]
      rfl
    have all : (stepsOf expression).mapM Call.ofStep = .ok calls := by
      rw [steps]
      exact mapM_cons_ok (Call.ofStep_of_application? (by decide +kernel) (by decide +kernel) found
        (Argument.itemsOf_of_single whole map)) (mapM_cons_ok rfl rfl)
    simpa [parsePipelineWithin, short, few, bind, Except.bind] using all
  obtain ⟨length, count, size, depth, parts, rounds⟩ :=
    limits_bound_values_and_rounds limits expression calls read
  simp only [bytes] at size depth rounds
  exact ⟨read, length 25 rfl, count 2 rfl, size,
    depth _ List.mem_cons_self _ List.mem_cons_self, (parts token).1, (parts token).2 _ fun _ _ => rfl,
    rounds _ (steps ▸ List.mem_cons_self) _ _ found token (whole ▸ List.mem_cons_self)⟩

end PipeQuery
