import PipeQuery.Collection.QueryMember
import PipeQuery.Proofs.Chain.Execution
import PipeQuery.Proofs.Pipeline.Limits
import PipeQuery.Record.Document

/-!
# Running expressions

An expression that cannot be read does nothing, even where its first steps could be. One that can be
read does what its calls do, and an expression after a bar runs as it would run alone on the target that
the expression before the bar left.
-/

set_option autoImplicit false

namespace PipeQuery

namespace Chain

variable {σ ε : Type} [Chainable σ ε]

theorem runWithin_of_error {limits : Limits} {expression : String} {error : ReadError}
    (rejected : parsePipelineWithin limits expression = .error error) (target : σ) :
    runWithin limits target expression = (target, .error (.unreadable error)) := by
  simp only [runWithin, rejected]

theorem runWithin_of_ok {limits : Limits} {expression : String} {calls : List Call}
    (read : parsePipelineWithin limits expression = .ok calls) (target : σ) :
    runWithin limits target expression = execute target calls := by
  simp only [runWithin, read]

theorem run_of_ok {expression : String} {calls : List Call}
    (read : parsePipeline expression = .ok calls) (target : σ) :
    run target expression = execute target calls :=
  runWithin_of_ok read target

theorem run_append_bar {first second : String} {calls more : List Call}
    (readFirst : parsePipeline first = .ok calls) (readSecond : parsePipeline second = .ok more)
    (target : σ) :
    run target (first ++ "|" ++ second) =
      andThen (run target first) (fun after => run after second) := by
  have whole : parsePipeline (first ++ "|" ++ second) = .ok (calls ++ more) := by
    rw [parsePipeline_append_bar second readFirst, readSecond]
    rfl
  have later : (fun after : σ => run after second) = fun after => execute after more := by
    funext after
    exact run_of_ok readSecond after
  rw [run_of_ok whole, run_of_ok readFirst, later, execute_append]

end Chain

namespace Collection

variable {α μ ε : Type} [Behaviour α μ ε]

theorem pipe_eq_run {collection : Collection α μ} (unlimited : collection.limits = .unlimited)
    (expression : String) : collection.pipe expression = Chain.run collection expression := by
  rw [pipe, unlimited, Chain.run]

end Collection

/-! ## Expressions as runs of calls -/

/-- An expression is read as a whole before anything runs. If it is rejected, the target stays as it is,
whatever members it has; else the run is that of the calls, which limits do not alter. Expressions that
can be read compose over a bar. A collection pipes in the same way, under the limits that it holds, and
over a bar where both parts are piped without limits: a member of the first part may set limits, and
then the second part is only run without limits, not piped. -/
theorem expressions_are_read_before_they_run_and_compose :
    (∀ {σ ε : Type} [Chainable σ ε] (target : σ) (limits : Limits) (expression : String),
      ((∃ error, parsePipelineWithin limits expression = .error error) ↔ Rejected limits expression) ∧
        (∀ error, parsePipelineWithin limits expression = .error error →
          Chain.runWithin limits target expression = (target, .error (.unreadable error))) ∧
        ∀ calls, parsePipelineWithin limits expression = .ok calls →
          Chain.runWithin limits target expression = Chain.execute target calls ∧
            Chain.run target expression = Chain.execute target calls) ∧
      (∀ {σ ε : Type} [Chainable σ ε] (target : σ) (first second : String) (calls more : List Call),
        parsePipeline first = .ok calls → parsePipeline second = .ok more →
        Chain.run target (first ++ "|" ++ second) =
          Chain.andThen (Chain.run target first) (fun after => Chain.run after second)) ∧
      (∀ {α μ ε : Type} [Behaviour α μ ε] (collection : Collection α μ) (expression : String),
        (∀ error, parsePipelineWithin collection.limits expression = .error error →
          collection.pipe expression = (collection, .error (.unreadable error))) ∧
        ∀ calls, parsePipelineWithin collection.limits expression = .ok calls →
          collection.pipe expression = Chain.execute collection calls) ∧
      ∀ {α μ ε : Type} [Behaviour α μ ε] (collection : Collection α μ) (first second : String)
        (calls more : List Call),
        parsePipeline first = .ok calls → parsePipeline second = .ok more →
        collection.limits = .unlimited →
        collection.pipe (first ++ "|" ++ second) =
            Chain.andThen (collection.pipe first) (fun after => Chain.run after second) ∧
          ((∀ after, collection.pipe first = (after, .ok ()) → after.limits = .unlimited) →
            collection.pipe (first ++ "|" ++ second) =
              Chain.andThen (collection.pipe first) (fun after => after.pipe second)) := by
  refine ⟨?_, ?_, ?_, ?_⟩
  · intro σ ε _ target limits expression
    refine ⟨parsePipelineWithin_error_iff, ?_, ?_⟩
    · exact fun error rejected => Chain.runWithin_of_error rejected target
    · exact fun calls read => ⟨Chain.runWithin_of_ok read target,
        Chain.run_of_ok (parsePipeline_of_within read) target⟩
  · exact fun target first second calls more readFirst readSecond =>
      Chain.run_append_bar readFirst readSecond target
  · intro α μ ε _ collection expression
    exact ⟨fun error rejected => Chain.runWithin_of_error rejected collection,
      fun calls read => Chain.runWithin_of_ok read collection⟩
  · intro α μ ε _ collection first second calls more readFirst readSecond unlimited
    have composed := Chain.run_append_bar readFirst readSecond collection
    rw [← Collection.pipe_eq_run unlimited, ← Collection.pipe_eq_run unlimited] at composed
    refine ⟨composed, fun kept => ?_⟩
    rw [composed]
    apply Chain.andThen_congr
    intro after completed
    exact (Collection.pipe_eq_run (kept after completed) second).symm

theorem pipe_of_unreadable_and_joined_expressions :
    let collection : Collection Json QueryMember :=
      { items := [.null, .bool true], members := [("r", .reverse)] }
    collection.pipe "r | r(" = (collection, .error (.unreadable (.malformedStep "r("))) ∧
      collection.pipe "r" = Chain.execute collection [⟨"r", []⟩] ∧
      collection.pipe ("r" ++ "|" ++ "r") =
        Chain.andThen (collection.pipe "r") (fun after => Chain.run after "r") := by
  intro collection
  obtain ⟨-, -, piped, joined⟩ := expressions_are_read_before_they_run_and_compose
  have rejected : parsePipeline "r | r(" = .error (.malformedStep "r(") := rfl
  have read : parsePipeline "r" = .ok [⟨"r", []⟩] := rfl
  exact ⟨(piped collection "r | r(").1 _ rejected, (piped collection "r").2 _ read,
    (joined collection "r" "r" _ _ read read rfl).1⟩

end PipeQuery
