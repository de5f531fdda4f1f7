import PipeQuery.Proofs.Pipeline.Composition

/-!
# Limits on expressions

An expression is rejected for a limit that it breaks or for a step that is no call. Under limits nothing
is read differently.
-/

set_option autoImplicit false

namespace PipeQuery

/-- The expression breaks a limit, or one of its steps, wherever it stands, is no call. -/
def Rejected (limits : Limits) (expression : String) : Prop :=
  (∃ limit, limits.maxBytes = some limit ∧ limit < expression.utf8ByteSize) ∨
    (∃ limit, limits.maxSteps = some limit ∧ limit < (stepsOf expression).length) ∨
    ∃ step ∈ stepsOf expression, ∃ error, Call.ofStep step = .error error

theorem Limits.checkLength_cases (limits : Limits) (expression : String) :
    (limits.checkLength expression = .ok () ∧
        ¬ ∃ limit, limits.maxBytes = some limit ∧ limit < expression.utf8ByteSize) ∨
      ((∃ error, limits.checkLength expression = .error error) ∧
        ∃ limit, limits.maxBytes = some limit ∧ limit < expression.utf8ByteSize) := by
  cases bound : limits.maxBytes with
  | none => exact .inl ⟨by simp [checkLength, bound], by simp⟩
  | some limit =>
      by_cases beyond : limit < expression.utf8ByteSize
      · exact .inr ⟨⟨_, by simp [checkLength, bound, beyond]; rfl⟩, limit, rfl, beyond⟩
      · exact .inl ⟨by simp [checkLength, bound, beyond], by simpa using beyond⟩

theorem Limits.checkSteps_cases (limits : Limits) (steps : Nat) :
    (limits.checkSteps steps = .ok () ∧ ¬ ∃ limit, limits.maxSteps = some limit ∧ limit < steps) ∨
      ((∃ error, limits.checkSteps steps = .error error) ∧
        ∃ limit, limits.maxSteps = some limit ∧ limit < steps) := by
  cases bound : limits.maxSteps with
  | none => exact .inl ⟨by simp [checkSteps, bound], by simp⟩
  | some limit =>
      by_cases beyond : limit < steps
      · exact .inr ⟨⟨_, by simp [checkSteps, bound, beyond]; rfl⟩, limit, rfl, beyond⟩
      · exact .inl ⟨by simp [checkSteps, bound, beyond], by simpa using beyond⟩

theorem parsePipelineWithin_error_iff {limits : Limits} {expression : String} :
    (∃ error, parsePipelineWithin limits expression = .error error) ↔ Rejected limits expression := by
  unfold Rejected
  rw [← mapM_error_iff]
  rcases limits.checkLength_cases expression with ⟨short, within⟩ | ⟨⟨error, long⟩, beyond⟩
  · rcases limits.checkSteps_cases (stepsOf expression).length with ⟨few, allowed⟩ | ⟨⟨error, many⟩, beyond⟩
    · simp [parsePipelineWithin, short, few, within, allowed, bind, Except.bind]
    · simp [parsePipelineWithin, short, many, beyond, bind, Except.bind]
  · simp [parsePipelineWithin, long, beyond, bind, Except.bind]

/-- Limits reject or leave alone: what is read under them is what is read without them. -/
theorem parsePipeline_of_within {limits : Limits} {expression : String} {calls : List Call}
    (read : parsePipelineWithin limits expression = .ok calls) : parsePipeline expression = .ok calls := by
  rcases limits.checkLength_cases expression with ⟨short, _⟩ | ⟨⟨error, long⟩, _⟩
  · rcases limits.checkSteps_cases (stepsOf expression).length with ⟨few, _⟩ | ⟨⟨error, many⟩, _⟩
    · simpa [parsePipelineWithin, short, few, bind, Except.bind] using read
    · simp [parsePipelineWithin, short, many, bind, Except.bind] at read
  · simp [parsePipelineWithin, long, bind, Except.bind] at read

theorem not_rejected_of_within {limits : Limits} {expression : String} {calls : List Call}
    (read : parsePipelineWithin limits expression = .ok calls) : ¬ Rejected limits expression := by
  intro rejected
  obtain ⟨error, failed⟩ := parsePipelineWithin_error_iff.mpr rejected
  cases read.symm.trans failed

end PipeQuery
