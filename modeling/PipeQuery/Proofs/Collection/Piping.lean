import PipeQuery.Proofs.Chain.Expression
import PipeQuery.Proofs.Collection.QueryMember
import PipeQuery.Proofs.Collection.Refusal
import PipeQuery.Proofs.Query.Filtering

/-!
# Expressions on collections with the query members

Every step of a run keeps the members and the limits and leaves some of the items, and a step that fails
leaves all of them as they are. So a run never adds an item, whatever the expression and however it ends.
-/

set_option autoImplicit false

namespace PipeQuery

/-! ## What a change leaves of the items -/

/-- The call is for a member that changes the order of items. -/
def Call.Reorders (call : Call) : Prop :=
  call.name = QueryMember.sortBy.name ∨ call.name = QueryMember.reverse.name

namespace QueryMember

variable {α : Type} [Record α] {member : QueryMember} {args : List Argument}
  {change : List α → List α}

theorem change_subperm (asked : member.changeOf args = .ok change) (items : List α) :
    (change items).Subperm items := by
  cases member with
  | keep =>
      obtain ⟨clause, -, rfl⟩ := map_eq_ok_iff.mp asked
      exact Query.apply_subperm _ items
  | drop =>
      obtain ⟨clause, -, rfl⟩ := map_eq_ok_iff.mp asked
      exact Query.apply_subperm _ items
  | sortBy =>
      obtain ⟨key, -, rfl⟩ := map_eq_ok_iff.mp asked
      exact Query.apply_subperm _ items
  | limit =>
      obtain ⟨count, -, rfl⟩ := map_eq_ok_iff.mp asked
      exact (List.take_sublist count items).subperm
  | offset =>
      obtain ⟨count, -, rfl⟩ := map_eq_ok_iff.mp asked
      exact (List.drop_sublist count items).subperm
  | reverse =>
      obtain ⟨-, -, rfl⟩ := map_eq_ok_iff.mp asked
      exact (List.reverse_perm items).subperm

theorem change_sublist (asked : member.changeOf args = .ok change)
    (keepsOrder : ¬ (member.call args).Reorders) (items : List α) : (change items).Sublist items := by
  cases member with
  | keep =>
      obtain ⟨clause, -, rfl⟩ := map_eq_ok_iff.mp asked
      exact Query.apply_sublist rfl items
  | drop =>
      obtain ⟨clause, -, rfl⟩ := map_eq_ok_iff.mp asked
      exact Query.apply_sublist rfl items
  | limit =>
      obtain ⟨count, -, rfl⟩ := map_eq_ok_iff.mp asked
      exact List.take_sublist count items
  | offset =>
      obtain ⟨count, -, rfl⟩ := map_eq_ok_iff.mp asked
      exact List.drop_sublist count items
  | sortBy => exact absurd (.inl rfl) keepsOrder
  | reverse => exact absurd (.inr rfl) keepsOrder

end QueryMember

/-! ## Runs -/

namespace Collection

variable {α : Type} [Record α] {items : List α} {limits : Limits}

/-- What calls that all apply have left of the items. The induction is on the calls, and every one finds
a collection with the members and the limits of the first. -/
theorem exists_remaining_of_completes {calls : List Call} {final : Collection α QueryMember}
    (completes : Chain.Completes (queryable items limits) calls final) :
    ∃ remaining, final = queryable remaining limits ∧ remaining.Subperm items ∧
      ((∀ call ∈ calls, ¬ call.Reorders) → remaining.Sublist items) := by
  induction calls generalizing items with
  | nil =>
      cases completes
      exact ⟨items, rfl, List.Subperm.refl items, fun _ => List.Sublist.refl items⟩
  | cons call calls ih =>
      cases completes with
      | cons head tail =>
          obtain ⟨member, args, change, rfl, asked, rfl⟩ := exists_change_of_applies head
          obtain ⟨remaining, reached, fewer, inOrder⟩ := ih tail
          refine ⟨remaining, reached, fewer.trans (QueryMember.change_subperm asked items), ?_⟩
          intro keepOrder
          have kept := QueryMember.change_sublist asked (keepOrder _ List.mem_cons_self) items
          exact (inOrder fun other later => keepOrder other (List.mem_cons_of_mem _ later)).trans kept

/-- The call that stops a run leaves what the calls before it left. -/
theorem execute_of_halts {calls : List Call} {final : Collection α QueryMember}
    {error : ChainError QueryError} (halts : Chain.Halts (queryable items limits) calls final error) :
    ∃ before call later, calls = before ++ call :: later ∧
      Chain.execute (queryable items limits) before = (final, .ok ()) ∧ Chain.Stops final call final error := by
  obtain ⟨before, call, later, middle, split, completes, stops⟩ := halts
  obtain ⟨remaining, rfl, -, -⟩ := exists_remaining_of_completes completes
  obtain rfl := eq_of_stops stops
  exact ⟨before, call, later, split, completes.execute_eq, stops⟩

/-! ## Steps that fail -/

/-- If a step of an expression fails, all is as the steps before it have left it. The calls that a query
member fails on are those with arguments that it refuses, and they change nothing. -/
theorem failed_steps_change_nothing (items : List α) (limits : Limits) :
    (∀ expression calls final error, parsePipelineWithin limits expression = .ok calls →
      (queryable items limits).pipe expression = (final, .error error) →
      ∃ before call later, calls = before ++ call :: later ∧
        Chain.execute (queryable items limits) before = (final, .ok ()) ∧
        Chain.Stops final call final error) ∧
      (∀ (member : QueryMember) args cause, member.Refuses args cause →
        Chain.apply (queryable items limits) (member.call args) =
          (queryable items limits, .failed cause)) ∧
      ∀ (member : QueryMember) args, (¬ ∃ cause, member.Refuses args cause) →
        ∃ after, Chain.Applies (queryable items limits) (member.call args) after := by
  refine ⟨?_, ?_, ?_⟩
  · intro expression calls final error read piped
    have ran : (queryable items limits).pipe expression = Chain.execute (queryable items limits) calls :=
      Chain.runWithin_of_ok read _
    exact execute_of_halts (Chain.halts_iff.mpr (ran.symm.trans piped))
  · intro member args cause refuses
    have failed : (member.changeOf args : Except QueryError (List α → List α)) = .error cause :=
      QueryMember.changeOf_eq_error_iff.mpr refuses
    obtain ⟨outcome, ran, reported⟩ := ((offers_queryable items limits member).stops failed).apply_eq
    cases outcome with
    | failed other =>
        cases reported
        exact ran
    | _ => cases reported
  · intro member args accepted
    cases asked : (member.changeOf args : Except QueryError (List α → List α)) with
    | ok change => exact ⟨_, (offers_queryable items limits member).applies asked items⟩
    | error cause => exact absurd ⟨cause, QueryMember.changeOf_eq_error_iff.mp asked⟩ accepted

theorem failed_limit_and_membership_change_nothing :
    let items : List Json := [.null, .bool true]
    let calls : List Call := [⟨"reverse", []⟩, ⟨"limit", []⟩, ⟨"reverse", []⟩]
    let reversed : Collection Json QueryMember := queryable items.reverse {}
    let error : ChainError QueryError := .failed "limit" (.argumentCount "limit" ⟨1, 1⟩ 0)
    let unlisted : List Argument := [.bare "tag", .bare "in", .list [.bare "new", .list []]]
    (∃ before call later, calls = before ++ call :: later ∧
        Chain.execute (queryable items {}) before = (reversed, .ok ()) ∧ Chain.Stops reversed call reversed error) ∧
      Chain.apply (queryable items {}) (QueryMember.keep.call unlisted) =
          (queryable items {}, .failed (.unsupportedOperand .isIn .list)) ∧
      ∃ after, Chain.Applies (queryable items {}) (QueryMember.reverse.call []) after := by
  intro items calls reversed error unlisted
  obtain ⟨halted, refused, accepted⟩ := failed_steps_change_nothing items {}
  have read : parsePipelineWithin {} "reverse | limit | reverse" = .ok calls := rfl
  have piped : (queryable items {}).pipe "reverse | limit | reverse" = (reversed, .error error) := rfl
  have scalar : ∀ other ∈ [Argument.bare "new"], ¬ other.IsCompound := by
    simp [Argument.IsCompound, Argument.kind]
  have unfit : Operand.Refuses .isIn (.list ([.bare "new"] ++ [.list []])) (.unsupportedOperand .isIn .list) :=
    .compoundItem scalar (.inl rfl)
  have refuses : QueryMember.keep.Refuses unlisted (.unsupportedOperand .isIn .list) :=
    .operandUnfit .keep rfl rfl (by decide) unfit
  refine ⟨halted _ calls reversed error read piped, refused .keep unlisted _ refuses, accepted .reverse [] ?_⟩
  rintro ⟨cause, refuses⟩
  have failed := QueryMember.checkCount_reverse_eq_error_iff.mpr refuses
  cases failed

/-! ## Items after a run -/

/-- The steps of an expression that apply. There are none if it cannot be read. -/
def stepsApplied (collection : Collection α QueryMember) (expression : String) : List Call :=
  match parsePipelineWithin collection.limits expression with
  | .ok calls => Chain.appliedCalls collection calls
  | .error _ => []

/-- What a run has left of the items, where the steps that applied tell whether they are in order. -/
theorem exists_remaining_of_pipe (items : List α) (limits : Limits) (expression : String) :
    ∃ remaining, ((queryable items limits).pipe expression).1 = queryable remaining limits ∧
      remaining.Subperm items ∧
      ((∀ call ∈ (queryable items limits).stepsApplied expression, ¬ call.Reorders) →
        remaining.Sublist items) := by
  rw [pipe, stepsApplied]
  cases read : parsePipelineWithin (queryable items limits).limits expression with
  | error error =>
      rw [Chain.runWithin_of_error read]
      exact ⟨items, rfl, List.Subperm.refl items, fun _ => List.Sublist.refl items⟩
  | ok calls =>
      rw [Chain.runWithin_of_ok read]
      obtain ⟨middle, completes, ended⟩ := Chain.completes_appliedCalls (queryable items limits) calls
      obtain ⟨remaining, rfl, fewer, inOrder⟩ := exists_remaining_of_completes completes
      refine ⟨remaining, ?_, fewer, inOrder⟩
      -- The call that stops the run is not among those that applied, and it changes nothing.
      rcases ended with ran | ⟨call, final, error, stops, ran⟩
      · rw [ran]
      · rw [ran, eq_of_stops stops]

/-- Whatever an expression is and however it ends, it keeps the members and the limits, leaves no item
more often than it was there, and leaves the items in order unless a step of it sorted or reversed
them. -/
theorem pipe_leaves_some_items (items : List α) (limits : Limits) (expression : String) :
    let start := queryable items limits
    let final := (start.pipe expression).1
    final.members = start.members ∧ final.limits = start.limits ∧ final.items.Subperm start.items ∧
      ((∀ call ∈ start.stepsApplied expression, ¬ call.Reorders) →
        final.items.Sublist start.items) := by
  intro start final
  obtain ⟨remaining, reached, fewer, inOrder⟩ := exists_remaining_of_pipe items limits expression
  have reached : final = queryable remaining limits := reached
  rw [reached]
  exact ⟨rfl, rfl, fewer, inOrder⟩

theorem pipe_leaves_first_item_before_failing :
    let start : Collection Json QueryMember := queryable [.null, .bool true, .null] {}
    let final := (start.pipe "limit(1) | limit(x) | reverse()").1
    final.items.Subperm start.items ∧ final.items.Sublist start.items := by
  intro start final
  have names : (start.stepsApplied "limit(1) | limit(x) | reverse()").map Call.name = ["limit"] := by
    decide +kernel
  have inOrder : ∀ call ∈ start.stepsApplied "limit(1) | limit(x) | reverse()", ¬ call.Reorders := by
    intro call applied reorders
    have limit : call.name ∈ ["limit"] := names ▸ List.mem_map.mpr ⟨call, applied, rfl⟩
    rw [Call.Reorders, List.mem_singleton.mp limit] at reorders
    revert reorders
    decide
  obtain ⟨-, -, fewer, sublist⟩ :=
    pipe_leaves_some_items start.items {} "limit(1) | limit(x) | reverse()"
  exact ⟨fewer, sublist inOrder⟩

end Collection

end PipeQuery
