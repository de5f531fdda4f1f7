import PipeQuery.Proofs.Collection.QueryMember
import PipeQuery.Proofs.Collection.Refusal
import PipeQuery.Record.Document

/-!
# Bare words and quoted strings

A query member reads a quoted string as it reads the bare word of the same text, be it a field, an operator,
a direction, a value, a pattern or an item of a list. So two calls with arguments that are the same but for
quotes make the same change, or fail with errors that are the same but for the kinds of arguments in them.
-/

set_option autoImplicit false

namespace PipeQuery

/-! ## Taking quotes off -/

namespace Argument

mutual

/-- The value with bare words in place of strings, also among the items of lists. -/
def unquoted : Argument → Argument
  | .str content => .bare content
  | .list items => .list (unquotedItems items)
  | argument => argument

/-- The items with bare words in place of strings. -/
def unquotedItems : List Argument → List Argument
  | [] => []
  | item :: items => unquoted item :: unquotedItems items

end

theorem unquotedItems_eq_map (items : List Argument) : unquotedItems items = items.map unquoted := by
  induction items with
  | nil => simp [unquotedItems]
  | cons item items ih => simp [unquotedItems, ih]

@[simp] theorem text?_unquoted (argument : Argument) : argument.unquoted.text? = argument.text? := by
  cases argument <;> simp [unquoted, text?]

@[simp] theorem number?_unquoted (argument : Argument) : argument.unquoted.number? = argument.number? := by
  cases argument <;> simp [unquoted, number?]

@[simp] theorem items?_unquoted (argument : Argument) :
    argument.unquoted.items? = argument.items?.map (List.map unquoted) := by
  cases argument <;> simp [unquoted, items?, unquotedItems_eq_map]

/-- Only strings change their kind. -/
theorem kind_unquoted_of_wordless {argument : Argument} (wordless : argument.text? = none) :
    argument.unquoted.kind = argument.kind := by
  cases argument with
  | str => cases wordless
  | _ => simp [unquoted, kind]

end Argument

/-- The call with bare words in place of the strings among its arguments. -/
def Call.unquoted (call : Call) : Call :=
  ⟨call.name, call.args.map Argument.unquoted⟩

/-! ## Errors up to kinds -/

/-- The same error, reporting the kind instead. -/
def QueryError.withKind (kind : ArgumentKind) : QueryError → QueryError
  | .unsupportedOperand operator _ => .unsupportedOperand operator kind
  | .argumentRole member position expected _ => .argumentRole member position expected kind
  | error => error

/-- The errors differ in the kind of argument that they report, if in anything. -/
def QueryError.SameButKind (left right : QueryError) : Prop :=
  ∀ kind, left.withKind kind = right.withKind kind

/-- Both come to the same result, or they fail with errors that are the same but for the kind. -/
inductive SameUpToKind {β : Type} : Except QueryError β → Except QueryError β → Prop where
  | ok (result : β) : SameUpToKind (.ok result) (.ok result)
  | error {cause other : QueryError} : cause.SameButKind other → SameUpToKind (.error cause) (.error other)

namespace SameUpToKind

variable {β γ : Type} {left right : Except QueryError β}

theorem refl (computed : Except QueryError β) : SameUpToKind computed computed := by
  cases computed with
  | ok result => exact .ok result
  | error cause => exact .error fun _ => rfl

theorem symm (same : SameUpToKind left right) : SameUpToKind right left := by
  cases same with
  | ok result => exact .ok result
  | error same => exact .error fun kind => (same kind).symm

theorem trans {last : Except QueryError β} (first : SameUpToKind left right)
    (second : SameUpToKind right last) : SameUpToKind left last := by
  cases first with
  | ok result => exact second
  | error same =>
      cases second with
      | error other => exact .error fun kind => (same kind).trans (other kind)

theorem map (same : SameUpToKind left right) (change : β → γ) :
    SameUpToKind (left.map change) (right.map change) := by
  cases same with
  | ok result => exact .ok (change result)
  | error same => exact .error same

theorem bind (same : SameUpToKind left right) {next other : β → Except QueryError γ}
    (later : ∀ result, SameUpToKind (next result) (other result)) :
    SameUpToKind (left >>= next) (right >>= other) := by
  cases same with
  | ok result => exact later result
  | error same => exact .error same

end SameUpToKind

/-! ## Operands -/

theorem Operand.ofScalar_unquoted (operator : Operator) (argument : Argument) :
    ofScalar operator argument.unquoted = ofScalar operator argument := by
  cases argument <;> simp [Argument.unquoted, ofScalar]

theorem Operand.mapM_ofScalar_unquoted (operator : Operator) (items : List Argument) :
    (items.map Argument.unquoted).mapM (ofScalar operator) = items.mapM (ofScalar operator) := by
  rw [List.mapM_map]
  exact congrArg (items.mapM ·) (funext (ofScalar_unquoted operator))

theorem Operand.ofArgument_unquoted (operator : Operator) (argument : Argument) :
    SameUpToKind (ofArgument operator argument.unquoted) (ofArgument operator argument) := by
  unfold ofArgument
  rw [Argument.text?_unquoted, Argument.items?_unquoted, ofScalar_unquoted]
  cases operator with
  | regex =>
      cases argument.text? with
      | none => exact .error fun _ => rfl
      | some source => exact .refl _
  | isIn =>
      cases argument.items? with
      | none => exact .error fun _ => rfl
      | some items =>
          simp only [Option.map_some, mapM_ofScalar_unquoted]
          exact .refl _
  | _ =>
      dsimp only
      split
      · exact .error fun _ => rfl
      · exact .refl _

theorem Clause.ofArgument_unquoted (field : String) (operator : Operator) (argument : Argument) :
    SameUpToKind (ofArgument field operator argument.unquoted) (ofArgument field operator argument) :=
  (Operand.ofArgument_unquoted operator argument).map _

/-! ## Members -/

namespace QueryMember

theorem textOf_unquoted (member : QueryMember) (position : Nat) (argument : Argument) :
    member.textOf position argument.unquoted = member.textOf position argument := by
  unfold textOf
  rw [Argument.text?_unquoted]
  cases found : argument.text? with
  | none => rw [Argument.kind_unquoted_of_wordless found]
  | some text => rfl

theorem countOf_unquoted (member : QueryMember) (argument : Argument) :
    SameUpToKind (member.countOf argument.unquoted) (member.countOf argument) := by
  unfold countOf
  rw [Argument.number?_unquoted]
  cases argument.number?.bind Number.toUInt64? with
  | none => exact .error fun _ => rfl
  | some count => exact .refl _

theorem checkCount_unquoted (member : QueryMember) (args : List Argument) :
    member.checkCount (args.map Argument.unquoted) = member.checkCount args := by
  simp only [checkCount, List.length_map]

theorem clauseOf_unquoted (member : QueryMember) (args : List Argument) :
    SameUpToKind (member.clauseOf (args.map Argument.unquoted)) (member.clauseOf args) := by
  unfold clauseOf
  rw [checkCount_unquoted]
  refine (SameUpToKind.refl (member.checkCount args)).bind fun _ => ?_
  match args with
  | [field, value] =>
      simp only [List.map_cons, List.map_nil, textOf_unquoted]
      exact (SameUpToKind.refl _).bind fun name => Clause.ofArgument_unquoted name .eq value
  | [field, operator, value] =>
      simp only [List.map_cons, List.map_nil, textOf_unquoted]
      refine (SameUpToKind.refl _).bind fun name => ?_
      refine (SameUpToKind.refl _).bind fun word => ?_
      exact (SameUpToKind.refl _).bind fun known => Clause.ofArgument_unquoted name known value
  | [] => exact .refl _
  | [_] => exact .refl _
  | _ :: _ :: _ :: _ :: others =>
      simp only [List.map_cons, List.length_cons, List.length_map]
      exact .refl _

theorem keyOf_unquoted (member : QueryMember) (args : List Argument) :
    member.keyOf (args.map Argument.unquoted) = member.keyOf args := by
  unfold keyOf
  rw [checkCount_unquoted]
  match args with
  | [field] => simp only [List.map_cons, List.map_nil, textOf_unquoted]
  | [field, direction] => simp only [List.map_cons, List.map_nil, textOf_unquoted]
  | [] => rfl
  | _ :: _ :: _ :: others => simp only [List.map_cons, List.length_cons, List.length_map]

theorem onlyCountOf_unquoted (member : QueryMember) (args : List Argument) :
    SameUpToKind (member.onlyCountOf (args.map Argument.unquoted)) (member.onlyCountOf args) := by
  unfold onlyCountOf
  rw [checkCount_unquoted]
  refine (SameUpToKind.refl (member.checkCount args)).bind fun _ => ?_
  match args with
  | [argument] => exact countOf_unquoted member argument
  | [] => exact .refl _
  | _ :: _ :: others =>
      simp only [List.map_cons, List.length_cons, List.length_map]
      exact .refl _

/-- Without the quotes a member is asked for the same change, or it fails alike. -/
theorem changeOf_unquoted {α : Type} [Record α] (member : QueryMember) (args : List Argument) :
    SameUpToKind (member.changeOf (args.map Argument.unquoted) : Except QueryError (List α → List α))
      (member.changeOf args) := by
  cases member with
  | keep => exact (clauseOf_unquoted .keep args).map _
  | drop => exact (clauseOf_unquoted .drop args).map _
  | sortBy =>
      rw [changeOf, changeOf, keyOf_unquoted]
      exact .refl _
  | limit => exact (onlyCountOf_unquoted .limit args).map _
  | offset => exact (onlyCountOf_unquoted .offset args).map _
  | reverse =>
      rw [changeOf, changeOf, checkCount_unquoted]
      exact .refl _

theorem changeOf_of_unquoted_eq {α : Type} [Record α] (member : QueryMember) {args others : List Argument}
    (same : args.map Argument.unquoted = others.map Argument.unquoted) :
    SameUpToKind (member.changeOf args : Except QueryError (List α → List α)) (member.changeOf others) :=
  (same ▸ changeOf_unquoted member args).symm.trans (changeOf_unquoted member others)

end QueryMember

/-! ## Calls and runs -/

/-- Both runs leave the same target, and either end in the same way or stop at failures of one member that
are the same but for the kind. -/
inductive Chain.EndAlike {σ ε : Type} (express : QueryError → ε) :
    σ × Except (ChainError ε) Unit → σ × Except (ChainError ε) Unit → Prop where
  | same (result : σ × Except (ChainError ε) Unit) : EndAlike express result result
  | failed (final : σ) (name : String) {cause other : QueryError} : cause.SameButKind other →
      EndAlike express (final, .error (.failed name (express cause)))
        (final, .error (.failed name (express other)))

namespace Collection

theorem Offers.alike {α μ ε : Type} [Record α] [Behaviour α μ ε] {express : QueryError → ε}
    {collection : Collection α μ} {member : QueryMember} {args others : List Argument}
    (offers : collection.Offers express member)
    (same : args.map Argument.unquoted = others.map Argument.unquoted) :
    (∃ change : List α → List α,
        Chain.Applies collection (member.call args) { collection with items := change collection.items } ∧
        Chain.Applies collection (member.call others) { collection with items := change collection.items }) ∨
      ∃ cause other : QueryError, cause.SameButKind other ∧
        Chain.Stops collection (member.call args) collection (.failed member.name (express cause)) ∧
        Chain.Stops collection (member.call others) collection (.failed member.name (express other)) := by
  have alike : SameUpToKind (member.changeOf args : Except QueryError (List α → List α)) _ :=
    member.changeOf_of_unquoted_eq same
  generalize asked : (member.changeOf args : Except QueryError (List α → List α)) = left at alike
  generalize askedOther : (member.changeOf others : Except QueryError (List α → List α)) = right at alike
  cases alike with
  | ok change =>
      exact .inl ⟨change, offers.applies asked collection.items, offers.applies askedOther collection.items⟩
  | error same => exact .inr ⟨_, _, same, offers.stops asked, offers.stops askedOther⟩

section Queryable

variable {α : Type} [Record α] {items : List α} {limits : Limits}

/-- Two calls that are the same but for quotes apply alike or stop alike. -/
theorem queryable_call_alike (items : List α) (limits : Limits) {call other : Call}
    (same : call.unquoted = other.unquoted) :
    (∃ left : List α, Chain.Applies (queryable items limits) call (queryable left limits) ∧
        Chain.Applies (queryable items limits) other (queryable left limits)) ∨
      ∃ error cause : ChainError QueryError,
        Chain.Stops (queryable items limits) call (queryable items limits) error ∧
        Chain.Stops (queryable items limits) other (queryable items limits) cause ∧
        Chain.EndAlike id (queryable items limits, .error error) (queryable items limits, .error cause) := by
  obtain ⟨name, args⟩ := call
  obtain ⟨_, others⟩ := other
  obtain ⟨rfl, same⟩ := Call.mk.inj same
  cases open? : isReserved name with
  | true => exact .inr ⟨_, _, .reserved open?, .reserved open?, .same _⟩
  | false =>
      rcases resolve_queryable_cases items limits name with ⟨member, rfl⟩ | unresolved
      · rcases (offers_queryable items limits member).alike same with
          ⟨change, applies, appliesOther⟩ | ⟨cause, other, alike, stops, stopsOther⟩
        · exact .inl ⟨change items, applies, appliesOther⟩
        · exact .inr ⟨_, _, stops, stopsOther, .failed _ _ alike⟩
      · exact .inr ⟨_, _, .unknown open? unresolved, .unknown open? unresolved, .same _⟩

/-- Two runs of calls that are the same but for quotes end alike. The induction is on the calls: each two
that apply leave the same items to the next two. -/
theorem execute_alike {calls others : List Call}
    (same : calls.map Call.unquoted = others.map Call.unquoted) :
    Chain.EndAlike id (Chain.execute (queryable items limits) calls)
      (Chain.execute (queryable items limits) others) := by
  induction calls generalizing items others with
  | nil =>
      obtain rfl := List.map_eq_nil_iff.mp same.symm
      exact .same _
  | cons call calls ih =>
      cases others with
      | nil => cases same
      | cons other others =>
          obtain ⟨first, later⟩ := List.cons.inj same
          rcases queryable_call_alike items limits first with
            ⟨left, applies, appliesOther⟩ | ⟨error, cause, stops, stopsOther, alike⟩
          · rw [applies.execute_cons, appliesOther.execute_cons]
            exact ih later
          · rwa [stops.execute_cons, stopsOther.execute_cons]

end Queryable

/-- Bare words and strings are interchangeable in the arguments of query members, at any position and in
any list. Two calls that are the same but for quotes both apply and leave the same items, or they both fail
with errors that are the same but for the kind and leave all items as they are. Runs of such calls end
alike too, be the calls of query members or not. -/
theorem bare_words_and_strings_are_interchangeable {α μ ε : Type} [Record α] [Behaviour α μ ε]
    {express : QueryError → ε} :
    (∀ (collection : Collection α μ) (member : QueryMember), collection.Offers express member →
      ∀ args others : List Argument, args.map Argument.unquoted = others.map Argument.unquoted →
        (∃ after : Collection α μ, Chain.execute collection [member.call args] = (after, .ok ()) ∧
          Chain.execute collection [member.call others] = (after, .ok ())) ∨
        ∃ cause other : QueryError, cause.SameButKind other ∧
          Chain.execute collection [member.call args] =
            (collection, .error (.failed member.name (express cause))) ∧
          Chain.execute collection [member.call others] =
            (collection, .error (.failed member.name (express other)))) ∧
      ∀ (items : List α) (limits : Limits) (calls others : List Call),
        calls.map Call.unquoted = others.map Call.unquoted →
        Chain.EndAlike id (Chain.execute (queryable items limits) calls)
          (Chain.execute (queryable items limits) others) := by
  refine ⟨fun collection member offers args others same => ?_, fun _ _ _ _ same => execute_alike same⟩
  rcases offers.alike same with ⟨change, applies, appliesOther⟩ | ⟨cause, other, alike, stops, stopsOther⟩
  · exact .inl ⟨_, applies.execute_cons [], appliesOther.execute_cons []⟩
  · exact .inr ⟨cause, other, alike, stops.execute_cons [], stopsOther.execute_cons []⟩

theorem quoted_items_and_a_quoted_count_are_read_as_bare_words :
    let collection : Collection Json QueryMember :=
      queryable [.object [("name", .string "Ann")], .object [("name", .string "Bob")]] {}
    let quoted : List Argument := [.str "name", .bare "in", .list [.str "Bob", .bare "Di"]]
    let bare : List Argument := [.bare "name", .str "in", .list [.bare "Bob", .str "Di"]]
    (∃ after : Collection Json QueryMember,
        Chain.execute collection [QueryMember.keep.call quoted] = (after, .ok ()) ∧
        Chain.execute collection [QueryMember.keep.call bare] = (after, .ok ())) ∧
      (∃ cause other : QueryError, cause.SameButKind other ∧
        Chain.execute collection [QueryMember.limit.call [.str "2"]] =
          (collection, .error (.failed "limit" cause)) ∧
        Chain.execute collection [QueryMember.limit.call [.bare "2"]] =
          (collection, .error (.failed "limit" other))) ∧
      Chain.EndAlike id
        (Chain.execute collection [QueryMember.keep.call quoted, QueryMember.limit.call [.str "2"]])
        (Chain.execute collection [QueryMember.keep.call bare, QueryMember.limit.call [.bare "2"]]) := by
  intro collection quoted bare
  obtain ⟨calls, runs⟩ := @bare_words_and_strings_are_interchangeable Json QueryMember QueryError _ _ id
  refine ⟨?_, ?_, runs _ _ _ _ rfl⟩
  · have ran : Chain.execute collection [QueryMember.keep.call quoted] = (_, .ok ()) :=
      ((offers_queryable collection.items {} .keep).applies rfl collection.items).execute_cons []
    rcases calls collection .keep (offers_queryable _ _ _) quoted bare rfl with applied | ⟨_, _, _, failed, _⟩
    · exact applied
    · cases congrArg Prod.snd (ran.symm.trans failed)
  · have stopped : Chain.execute collection [QueryMember.limit.call [.str "2"]] =
        (collection, .error (.failed "limit" (.argumentRole "limit" 1 .count .str))) :=
      ((offers_queryable collection.items {} .limit).stops rfl).execute_cons []
    rcases calls collection .limit (offers_queryable _ _ _) [.str "2"] [.bare "2"] rfl with
      ⟨_, applied, _⟩ | failed
    · cases congrArg Prod.snd (stopped.symm.trans applied)
    · exact failed

end Collection

end PipeQuery
