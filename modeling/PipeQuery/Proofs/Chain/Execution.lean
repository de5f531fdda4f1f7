import PipeQuery.Chain.Run

/-!
# What a run of calls does

A call either applies to the target it meets or stops the run there, for exactly one cause. Both are
stated of the members that the target has at that moment, since any member may change the table that
the names after it are looked up in.
-/

set_option autoImplicit false

namespace PipeQuery.Chain

variable {σ ε : Type}

/-- Goes on after a run only if that one came to its end. -/
def andThen (result : σ × Except (ChainError ε) Unit)
    (next : σ → σ × Except (ChainError ε) Unit) : σ × Except (ChainError ε) Unit :=
  match result with
  | (after, .ok ()) => next after
  | (after, .error error) => (after, .error error)

theorem andThen_congr {result : σ × Except (ChainError ε) Unit}
    {left right : σ → σ × Except (ChainError ε) Unit}
    (agree : ∀ after, result = (after, .ok ()) → left after = right after) :
    andThen result left = andThen result right := by
  rcases result with ⟨after, ending | ending⟩
  · rfl
  · exact agree after rfl

variable [Chainable σ ε]

/-- The call is open to expressions, the target has the member now, and the member gives the target
back. -/
inductive Applies : σ → Call → σ → Prop where
  | applied {target after : σ} {call : Call} {member : Member σ ε}
      (unreserved : isReserved call.name = false)
      (resolved : Chainable.resolve target call.name = some member)
      (ran : member target call.args = (after, .target)) :
      Applies target call after

/-- The call ends a run on the target, which is left as the last argument but one says. A reserved
name is refused whatever the target has under it, and only a member that ran can change the target. -/
inductive Stops : σ → Call → σ → ChainError ε → Prop where
  | reserved {target : σ} {call : Call}
      (reserved : isReserved call.name = true) :
      Stops target call target (.reserved call.name)
  | unknown {target : σ} {call : Call}
      (unreserved : isReserved call.name = false)
      (unresolved : Chainable.resolve target call.name = none) :
      Stops target call target (.unknown call.name)
  | failed {target after : σ} {call : Call} {member : Member σ ε} {cause : ε}
      (unreserved : isReserved call.name = false)
      (resolved : Chainable.resolve target call.name = some member)
      (ran : member target call.args = (after, .failure cause)) :
      Stops target call after (.failed call.name cause)
  | broken {target after : σ} {call : Call} {member : Member σ ε}
      (unreserved : isReserved call.name = false)
      (resolved : Chainable.resolve target call.name = some member)
      (ran : member target call.args = (after, .stranger)) :
      Stops target call after (.broken call.name)

/-- Every call applies to the target that the calls before it left. -/
inductive Completes : σ → List Call → σ → Prop where
  | nil {target : σ} : Completes target [] target
  | cons {target middle final : σ} {call : Call} {calls : List Call}
      (head : Applies target call middle) (tail : Completes middle calls final) :
      Completes target (call :: calls) final

/-- The first call that does not apply stops the run, after all calls before it have applied. -/
def Halts (target : σ) (calls : List Call) (final : σ) (error : ChainError ε) : Prop :=
  ∃ before call later middle, calls = before ++ call :: later ∧
    Completes target before middle ∧ Stops middle call final error

/-! ## One call -/

/-- Exactly one of the two happens to a call, and `apply` says which. -/
theorem apply_cases (target : σ) (call : Call) :
    (∃ after, Applies target call after ∧ apply target call = (after, .applied)) ∨
      ∃ after outcome error, Stops target call after error ∧ apply target call = (after, outcome) ∧
        outcome.error? call.name = some error := by
  unfold apply
  cases open? : isReserved call.name with
  | true => exact .inr ⟨target, .reserved, _, .reserved open?, by simp, rfl⟩
  | false =>
      simp only [Bool.false_eq_true, ↓reduceIte]
      cases found : Chainable.resolve target call.name with
      | none => exact .inr ⟨target, .unresolved, _, .unknown open? found, rfl, rfl⟩
      | some member =>
          rcases ran : member target call.args with ⟨after, reply⟩
          cases reply with
          | target => exact .inl ⟨after, .applied open? found ran, by simp [ran, Outcome.ofReply]⟩
          | stranger =>
              exact .inr ⟨after, .broken, _, .broken open? found ran, by simp [ran, Outcome.ofReply], rfl⟩
          | failure cause =>
              exact .inr ⟨after, .failed cause, _, .failed open? found ran,
                by simp [ran, Outcome.ofReply], rfl⟩

theorem Applies.apply_eq {target after : σ} {call : Call} (applies : Applies target call after) :
    apply target call = (after, .applied) := by
  cases applies with
  | applied unreserved resolved ran => simp [apply, unreserved, resolved, ran, Outcome.ofReply]

theorem Stops.apply_eq {target after : σ} {call : Call} {error : ChainError ε}
    (stops : Stops target call after error) :
    ∃ outcome, apply target call = (after, outcome) ∧ outcome.error? call.name = some error := by
  cases stops with
  | reserved reserved => exact ⟨.reserved, by simp [apply, reserved], rfl⟩
  | unknown unreserved unresolved => exact ⟨.unresolved, by simp [apply, unreserved, unresolved], rfl⟩
  | failed unreserved resolved ran =>
      exact ⟨.failed _, by simp [apply, unreserved, resolved, ran, Outcome.ofReply], rfl⟩
  | broken unreserved resolved ran =>
      exact ⟨.broken, by simp [apply, unreserved, resolved, ran, Outcome.ofReply], rfl⟩

theorem Applies.unique {target after reached : σ} {call : Call} (applies : Applies target call after)
    (other : Applies target call reached) : after = reached := by
  have same := applies.apply_eq.symm.trans other.apply_eq
  exact congrArg Prod.fst same

theorem Applies.not_stops {target after reached : σ} {call : Call} {error : ChainError ε}
    (applies : Applies target call after) : ¬ Stops target call reached error := by
  intro stops
  obtain ⟨outcome, ran, reported⟩ := stops.apply_eq
  rw [applies.apply_eq] at ran
  cases ran
  cases reported

theorem Stops.unique {target after reached : σ} {call : Call} {error cause : ChainError ε}
    (stops : Stops target call after error) (other : Stops target call reached cause) :
    after = reached ∧ error = cause := by
  obtain ⟨outcome, ran, reported⟩ := stops.apply_eq
  obtain ⟨again, ranAgain, reportedAgain⟩ := other.apply_eq
  rw [ran] at ranAgain
  cases ranAgain
  rw [reported] at reportedAgain
  cases reportedAgain
  exact ⟨rfl, rfl⟩

/-! ## Whole runs -/

@[simp] theorem execute_nil (target : σ) : execute target [] = (target, .ok ()) := rfl

theorem Applies.execute_cons {target after : σ} {call : Call} (applies : Applies target call after)
    (calls : List Call) : execute target (call :: calls) = execute after calls := by
  simp [execute, applies.apply_eq, Outcome.error?]

theorem Stops.execute_cons {target after : σ} {call : Call} {error : ChainError ε}
    (stops : Stops target call after error) (calls : List Call) :
    execute target (call :: calls) = (after, .error error) := by
  obtain ⟨outcome, ran, reported⟩ := stops.apply_eq
  simp [execute, ran, reported]

theorem Completes.execute_append {target middle : σ} {before : List Call}
    (completes : Completes target before middle) (calls : List Call) :
    execute target (before ++ calls) = execute middle calls := by
  induction completes with
  | nil => rfl
  | cons head _ ih => rw [List.cons_append, head.execute_cons, ih]

theorem Halts.execute_eq {target final : σ} {calls : List Call} {error : ChainError ε}
    (halts : Halts target calls final error) : execute target calls = (final, .error error) := by
  obtain ⟨before, call, later, middle, rfl, completes, stops⟩ := halts
  rw [completes.execute_append, stops.execute_cons]

/-- Every run either completes or halts. The induction is on the calls, and the calls after the first
run on the target that it left. -/
theorem completes_or_halts (target : σ) (calls : List Call) :
    (∃ final, Completes target calls final) ∨ ∃ final error, Halts target calls final error := by
  induction calls generalizing target with
  | nil => exact .inl ⟨target, .nil⟩
  | cons call calls ih =>
      rcases apply_cases target call with ⟨after, applies, _⟩ | ⟨after, _, error, stops, _, _⟩
      · rcases ih after with ⟨final, completes⟩ | ⟨final, error, before, next, later, middle,
          rfl, completes, stops⟩
        · exact .inl ⟨final, .cons applies completes⟩
        · exact .inr ⟨final, error, call :: before, next, later, middle, rfl,
            .cons applies completes, stops⟩
      · exact .inr ⟨after, error, [], call, calls, target, rfl, .nil, stops⟩

theorem Completes.execute_eq {target final : σ} {calls : List Call}
    (completes : Completes target calls final) : execute target calls = (final, .ok ()) := by
  simpa using completes.execute_append []

theorem completes_iff {target final : σ} {calls : List Call} :
    Completes target calls final ↔ execute target calls = (final, .ok ()) := by
  constructor
  · exact Completes.execute_eq
  · intro ran
    rcases completes_or_halts target calls with ⟨reached, completes⟩ | ⟨reached, error, halts⟩
    · have same := completes.execute_eq.symm.trans ran
      cases same
      exact completes
    · have absurd := halts.execute_eq.symm.trans ran
      cases absurd

theorem halts_iff {target final : σ} {calls : List Call} {error : ChainError ε} :
    Halts target calls final error ↔ execute target calls = (final, .error error) := by
  constructor
  · exact Halts.execute_eq
  · intro ran
    rcases completes_or_halts target calls with ⟨reached, completes⟩ | ⟨reached, cause, halts⟩
    · have absurd := completes.execute_eq.symm.trans ran
      cases absurd
    · have same := halts.execute_eq.symm.trans ran
      cases same
      exact halts

theorem execute_append (target : σ) (first second : List Call) :
    execute target (first ++ second) =
      andThen (execute target first) (fun after => execute after second) := by
  rcases completes_or_halts target first with ⟨after, completes⟩ | ⟨final, error, halts⟩
  · rw [completes.execute_append, completes.execute_eq]
    rfl
  · have extended : Halts target (first ++ second) final error := by
      obtain ⟨before, call, later, middle, rfl, completes, stops⟩ := halts
      exact ⟨before, call, later ++ second, middle, by simp, completes, stops⟩
    rw [extended.execute_eq, halts.execute_eq]
    rfl

/-- The calls of a run that apply: all of them, or those before the one that stops the run. -/
def appliedCalls (target : σ) : List Call → List Call
  | [] => []
  | call :: calls =>
    match apply target call with
    | (after, .applied) => call :: appliedCalls after calls
    | _ => []

theorem Completes.appliedCalls_append {target middle : σ} {before : List Call}
    (completes : Completes target before middle) (calls : List Call) :
    appliedCalls target (before ++ calls) = before ++ appliedCalls middle calls := by
  induction completes with
  | nil => rfl
  | cons head _ ih => simp only [List.cons_append, appliedCalls, head.apply_eq, ih]

theorem Stops.appliedCalls_cons {target after : σ} {call : Call} {error : ChainError ε}
    (stops : Stops target call after error) (calls : List Call) :
    appliedCalls target (call :: calls) = [] := by
  obtain ⟨outcome, ran, reported⟩ := stops.apply_eq
  cases outcome with
  | applied => cases reported
  | _ => simp only [appliedCalls, ran]

theorem completes_appliedCalls (target : σ) (calls : List Call) :
    ∃ middle, Completes target (appliedCalls target calls) middle ∧
      (execute target calls = (middle, .ok ()) ∨
        ∃ call final error, Stops middle call final error ∧ execute target calls = (final, .error error)) := by
  rcases completes_or_halts target calls with ⟨final, completes⟩ | ⟨final, error, halts⟩
  · have applied : appliedCalls target calls = calls := by
      simpa [appliedCalls] using completes.appliedCalls_append []
    exact ⟨final, applied.symm ▸ completes, .inl completes.execute_eq⟩
  · have ran := halts.execute_eq
    obtain ⟨before, call, later, middle, rfl, completes, stops⟩ := halts
    have applied : appliedCalls target (before ++ call :: later) = before := by
      rw [completes.appliedCalls_append, stops.appliedCalls_cons, List.append_nil]
    exact ⟨middle, applied.symm ▸ completes, .inr ⟨call, final, error, stops, ran⟩⟩

end PipeQuery.Chain

/-! ## What a run asks of the members

Two tables for the same targets are compared here, so neither is left to be inferred where both are
known.
-/

namespace PipeQuery.Chain

variable {σ ε : Type}

/-- Two tables give a call the same answer on the target: no member under both, or the same effect of
the two members there. -/
def SameAnswer (left right : Chainable σ ε) (target : σ) (call : Call) : Prop :=
  (left.resolve target call.name).map (fun member => member target call.args) =
    (right.resolve target call.name).map (fun member => member target call.args)

/-- The other table gives the same answers to the calls that the run reaches, on the targets on which it
reaches them. Reserved names and the calls after the first that does not apply are not asked about. -/
def AgreesAlong (table other : Chainable σ ε) (target : σ) (calls : List Call) : Prop :=
  ∀ before call later middle, calls = before ++ call :: later →
    @Completes σ ε table target before middle → isReserved call.name = false →
    SameAnswer table other middle call

theorem apply_congr {table other : Chainable σ ε} {target : σ} {call : Call}
    (agree : isReserved call.name = false → SameAnswer table other target call) :
    @apply σ ε table target call = @apply σ ε other target call := by
  unfold apply
  cases open? : isReserved call.name with
  | true => rfl
  | false =>
      have answers := agree open?
      unfold SameAnswer at answers
      simp only [Bool.false_eq_true, ↓reduceIte]
      cases here : @Chainable.resolve σ ε table target call.name with
      | none =>
          cases there : @Chainable.resolve σ ε other target call.name with
          | none => rfl
          | some member => simp [here, there] at answers
      | some member =>
          cases there : @Chainable.resolve σ ε other target call.name with
          | none => simp [here, there] at answers
          | some other =>
              simp only [here, there, Option.map_some, Option.some.injEq] at answers
              simp only [answers]

theorem execute_congr (other table : Chainable σ ε) (target : σ) (calls : List Call)
    (agree : AgreesAlong table other target calls) :
    execute target calls = @execute σ ε other target calls := by
  induction calls generalizing target with
  | nil => rfl
  | cons call calls ih =>
      have first := apply_congr (agree [] call calls target rfl .nil)
      rcases apply_cases target call with
        ⟨after, applies, ran⟩ | ⟨after, outcome, error, stops, ran, reported⟩
      · have rest : AgreesAlong table other after calls := by
          rintro before next later middle rfl completes
          exact agree (call :: before) next later middle rfl (.cons applies completes)
        rw [applies.execute_cons, ih after rest]
        rw [ran] at first
        simp only [execute, ← first, Outcome.error?]
      · rw [stops.execute_cons]
        rw [ran] at first
        simp only [execute, ← first, reported]

/-- A run succeeds exactly if every call applies to the target that the calls before it left. Else it
ends at the first call that does not, with the error of that call and the target as that call left it.
What a table holds for later calls, or for reserved names, makes no difference, and a run of two lists
of calls is the run of the first and then, if that succeeded, of the second. -/
theorem execute_stops_at_first_inapplicable_call [table : Chainable σ ε] (target : σ)
    (calls : List Call) :
    (∀ final, execute target calls = (final, .ok ()) ↔ Completes target calls final) ∧
      (∀ final error, execute target calls = (final, .error error) ↔ Halts target calls final error) ∧
      (∀ other : Chainable σ ε, AgreesAlong table other target calls →
        @execute σ ε table target calls = @execute σ ε other target calls) ∧
      ∀ more, execute target (calls ++ more) =
        andThen (execute target calls) (fun after => execute after more) :=
  ⟨fun _ => completes_iff.symm, fun _ _ => halts_iff.symm,
    fun other agree => execute_congr other table target calls agree, execute_append target calls⟩

theorem execute_stops_when_member_is_gone :
    let once : Member Nat Unit := fun target _ => (target + 1, .target)
    let table : Chainable Nat Unit :=
      ⟨fun target name => if name = "once" ∧ target = 0 then some once else none⟩
    let calls : List Call := [⟨"once", []⟩, ⟨"once", []⟩, ⟨"count", []⟩]
    execute 0 calls = (1, .error (.unknown "once")) ∧
      let other : Chainable Nat Unit :=
        ⟨fun target name => if name = "count" then some once else table.resolve target name⟩
      @execute Nat Unit table 0 calls = @execute Nat Unit other 0 calls := by
  intro once table calls
  obtain ⟨-, halts, unasked, -⟩ := execute_stops_at_first_inapplicable_call 0 calls
  constructor
  · apply (halts 1 (.unknown "once")).mpr
    have first : Applies 0 ⟨"once", []⟩ 1 := .applied (by decide) rfl rfl
    have second : Stops 1 ⟨"once", []⟩ 1 (.unknown "once") := .unknown (by decide) rfl
    exact ⟨[⟨"once", []⟩], ⟨"once", []⟩, [⟨"count", []⟩], 1, rfl, .cons first .nil, second⟩
  · apply unasked
    intro before call later middle _ _ unreserved
    have different : call.name ≠ "count" := by
      intro same
      rw [same] at unreserved
      cases unreserved
    simp only [SameAnswer, if_neg different]

end PipeQuery.Chain
