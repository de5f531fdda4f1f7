import PipeQuery.Collection.QueryMember
import PipeQuery.Proofs.ReadEach

/-!
# Refused arguments

Which lists of arguments a query member refuses, and for which cause. Where several things are wrong, the
number of arguments is looked at first and then each argument in turn.
-/

set_option autoImplicit false

namespace PipeQuery

/-- The argument is made of other arguments. -/
def Argument.IsCompound (argument : Argument) : Prop :=
  argument.kind = .list ∨ argument.kind = .map

/-- The operator has no use for the argument as its operand. -/
inductive Operand.Refuses : Operator → Argument → QueryError → Prop where
  | notText {operator : Operator} {argument : Argument}
      (textual : operator.isText = true) (wordless : argument.text? = none) :
      Refuses operator argument (.unsupportedOperand operator argument.kind)
  | invalidPattern {argument : Argument} {source : String}
      (text : argument.text? = some source) (unread : Pattern.ofText? source = none) :
      Refuses .regex argument (.invalidPattern source)
  | notList {argument : Argument} (itemless : argument.items? = none) :
      Refuses .isIn argument (.unsupportedOperand .isIn argument.kind)
  | compoundItem {before after : List Argument} {item : Argument}
      (earlier : ∀ other ∈ before, ¬ other.IsCompound) (compound : item.IsCompound) :
      Refuses .isIn (.list (before ++ item :: after)) (.unsupportedOperand .isIn item.kind)
  | compound {operator : Operator} {argument : Argument}
      (ordering : operator.isOrdering = true) (compound : argument.IsCompound) :
      Refuses operator argument (.unsupportedOperand operator argument.kind)

namespace QueryMember

/-- The member keeps or drops the items of which a clause holds. -/
inductive Filters : QueryMember → Prop where
  | keep : Filters .keep
  | drop : Filters .drop

/-- The first argument of the member names a field. -/
inductive ReadsField : QueryMember → Prop where
  | filter {member : QueryMember} : member.Filters → ReadsField member
  | sortBy : ReadsField .sortBy

/-- The only argument of the member is a count. -/
inductive ReadsCount : QueryMember → Prop where
  | limit : ReadsCount .limit
  | offset : ReadsCount .offset

/-- The member refuses the arguments for the cause. -/
inductive Refuses : QueryMember → List Argument → QueryError → Prop where
  | wrongCount {member : QueryMember} {args : List Argument}
      (unaccepted : member.arity.accepts args.length = false) :
      Refuses member args (.argumentCount member.name member.arity args.length)
  | fieldNotText {member : QueryMember} {field : Argument} {rest : List Argument}
      (reads : member.ReadsField) (accepted : member.arity.accepts (field :: rest).length = true)
      (wordless : field.text? = none) :
      Refuses member (field :: rest) (.argumentRole member.name 1 .text field.kind)
  | valueUnfit {member : QueryMember} {field value : Argument} {name : String} {cause : QueryError}
      (filters : member.Filters) (named : field.text? = some name)
      (unfit : Operand.Refuses .eq value cause) : Refuses member [field, value] cause
  | operatorNotText {member : QueryMember} {field operator value : Argument} {name : String}
      (filters : member.Filters) (named : field.text? = some name) (wordless : operator.text? = none) :
      Refuses member [field, operator, value] (.argumentRole member.name 2 .text operator.kind)
  | operatorUnknown {member : QueryMember} {field operator value : Argument} {name word : String}
      (filters : member.Filters) (named : field.text? = some name)
      (spelled : operator.text? = some word) (unknown : Operator.ofWord? word = none) :
      Refuses member [field, operator, value] (.unknownOperator word)
  | operandUnfit {member : QueryMember} {field operator value : Argument} {name word : String}
      {known : Operator} {cause : QueryError} (filters : member.Filters)
      (named : field.text? = some name) (spelled : operator.text? = some word)
      (found : Operator.ofWord? word = some known) (unfit : Operand.Refuses known value cause) :
      Refuses member [field, operator, value] cause
  | directionNotText {field direction : Argument} {name : String} (named : field.text? = some name)
      (wordless : direction.text? = none) :
      Refuses .sortBy [field, direction] (.argumentRole QueryMember.sortBy.name 2 .text direction.kind)
  | directionUnknown {field direction : Argument} {name word : String}
      (named : field.text? = some name) (spelled : direction.text? = some word)
      (unknown : Direction.ofWord? word = none) :
      Refuses .sortBy [field, direction] (.unknownDirection word)
  | notCount {member : QueryMember} {argument : Argument} (reads : member.ReadsCount)
      (uncounted : ∀ number, argument.number? = some number → number.toUInt64? = none) :
      Refuses member [argument] (.argumentRole member.name 1 .count argument.kind)

end QueryMember

/-! ## Results of single checks -/

theorem Operand.ofScalar_eq_error_iff {operator : Operator} {argument : Argument} {cause : QueryError} :
    Operand.ofScalar operator argument = .error cause ↔
      argument.IsCompound ∧ cause = .unsupportedOperand operator argument.kind := by
  cases argument <;> simp [ofScalar, Argument.IsCompound, Argument.kind, eq_comm]

theorem Operand.ofScalar_ok_iff {operator : Operator} {argument : Argument} :
    (∃ operand, Operand.ofScalar operator argument = .ok operand) ↔ ¬ argument.IsCompound := by
  cases argument <;> simp [ofScalar, Argument.IsCompound, Argument.kind]

theorem Operator.ofWord_eq_error_iff {word : String} {cause : QueryError} :
    Operator.ofWord word = .error cause ↔ Operator.ofWord? word = none ∧ cause = .unknownOperator word := by
  unfold Operator.ofWord
  cases Operator.ofWord? word <;> simp [eq_comm]

theorem Operator.ofWord_eq_ok_iff {word : String} {operator : Operator} :
    Operator.ofWord word = .ok operator ↔ Operator.ofWord? word = some operator := by
  unfold Operator.ofWord
  cases Operator.ofWord? word <;> simp

theorem Direction.ofWord_eq_error_iff {word : String} {cause : QueryError} :
    Direction.ofWord word = .error cause ↔
      Direction.ofWord? word = none ∧ cause = .unknownDirection word := by
  unfold Direction.ofWord
  cases Direction.ofWord? word <;> simp [eq_comm]

theorem Direction.ofWord_eq_ok_iff {word : String} {direction : Direction} :
    Direction.ofWord word = .ok direction ↔ Direction.ofWord? word = some direction := by
  unfold Direction.ofWord
  cases Direction.ofWord? word <;> simp

/-! ## Operands -/

namespace Operand

theorem ofArgument_of_isOrdering {operator : Operator} (ordering : operator.isOrdering = true)
    (argument : Argument) : ofArgument operator argument = ofScalar operator argument := by
  revert ordering
  cases operator <;> simp [Operator.isOrdering, Operator.normalize, Operator.isText, ofArgument]

theorem ofArgument_of_isText {operator : Operator} {argument : Argument}
    (textual : operator.isText = true) (wordless : argument.text? = none) :
    ofArgument operator argument = .error (.unsupportedOperand operator argument.kind) := by
  revert textual
  cases operator <;> simp [Operator.isText, ofArgument, wordless]

theorem Refuses.ofArgument_eq {operator : Operator} {argument : Argument} {cause : QueryError}
    (refuses : Refuses operator argument cause) : ofArgument operator argument = .error cause := by
  cases refuses with
  | notText textual wordless => exact ofArgument_of_isText textual wordless
  | invalidPattern text unread => simp [ofArgument, text, unread]
  | notList itemless => simp [ofArgument, itemless]
  | @compoundItem before after item earlier compound =>
      have first : (before ++ item :: after).mapM (ofScalar .isIn) =
          .error (.unsupportedOperand .isIn item.kind) :=
        mapM_eq_error_iff.mpr ⟨before, item, after, rfl,
          fun other member => ofScalar_ok_iff.mpr (earlier other member),
          ofScalar_eq_error_iff.mpr ⟨compound, rfl⟩⟩
      simp [ofArgument, Argument.items?, first, Except.map]
  | compound ordering compound =>
      rw [ofArgument_of_isOrdering ordering]
      exact ofScalar_eq_error_iff.mpr ⟨compound, rfl⟩

theorem refuses_of_ofArgument_eq {operator : Operator} {argument : Argument} {cause : QueryError}
    (failed : ofArgument operator argument = .error cause) : Refuses operator argument cause := by
  unfold ofArgument at failed
  split at failed
  · split at failed
    next wordless =>
      cases failed
      exact .notText rfl wordless
    next source text =>
      split at failed
      next unread =>
        cases failed
        exact .invalidPattern text unread
      next => cases failed
  · split at failed
    next itemless =>
      cases failed
      exact .notList itemless
    next items listed =>
      obtain ⟨before, item, after, rfl, earlier, unfit⟩ := mapM_eq_error_iff.mp (map_eq_error_iff.mp failed)
      obtain ⟨compound, rfl⟩ := ofScalar_eq_error_iff.mp unfit
      have whole : argument = .list (before ++ item :: after) := by
        cases argument <;> simp_all [Argument.items?]
      rw [whole]
      exact .compoundItem (fun other member => ofScalar_ok_iff.mp (earlier other member)) compound
  next notPattern notMembership =>
    split at failed
    next wordless =>
      cases failed
      simp only [Bool.and_eq_true, Option.isNone_iff_eq_none] at wordless
      exact .notText wordless.1 wordless.2
    next worded =>
      obtain ⟨compound, rfl⟩ := ofScalar_eq_error_iff.mp failed
      have wordless : argument.text? = none := by
        rcases compound with listed | mapped <;> cases argument <;> first | rfl | contradiction
      refine .compound ?_ compound
      cases operator <;> simp_all [Operator.isText, Operator.isOrdering, Operator.normalize]

theorem ofArgument_eq_error_iff {operator : Operator} {argument : Argument} {cause : QueryError} :
    ofArgument operator argument = .error cause ↔ Refuses operator argument cause :=
  ⟨refuses_of_ofArgument_eq, Refuses.ofArgument_eq⟩

end Operand

/-! ## Members -/

theorem Clause.ofArgument_eq_error_iff {field : String} {operator : Operator} {argument : Argument}
    {cause : QueryError} :
    Clause.ofArgument field operator argument = .error cause ↔ Operand.Refuses operator argument cause :=
  map_eq_error_iff.trans Operand.ofArgument_eq_error_iff

namespace QueryMember

variable {member : QueryMember} {args : List Argument} {argument : Argument} {cause : QueryError}
  {position : Nat}

theorem checkCount_eq_error_iff : member.checkCount args = .error cause ↔
    member.arity.accepts args.length = false ∧
      cause = .argumentCount member.name member.arity args.length := by
  unfold checkCount
  cases member.arity.accepts args.length <;> simp [eq_comm]

/-- What begins with the check of the number of arguments fails where the check does. -/
theorem checkCount_bind_eq {β : Type} {next : Unit → Except QueryError β}
    (unaccepted : member.arity.accepts args.length = false) :
    (member.checkCount args >>= next) = .error (.argumentCount member.name member.arity args.length) :=
  bind_eq_error_iff.mpr (.inl (checkCount_eq_error_iff.mpr ⟨unaccepted, rfl⟩))

theorem textOf_eq_error_iff : member.textOf position argument = .error cause ↔
    argument.text? = none ∧ cause = .argumentRole member.name position .text argument.kind := by
  unfold textOf
  cases argument.text? <;> simp [eq_comm]

theorem textOf_eq_ok_iff {text : String} :
    member.textOf position argument = .ok text ↔ argument.text? = some text := by
  unfold textOf
  cases argument.text? <;> simp

theorem countOf_eq_error_iff : member.countOf argument = .error cause ↔
    (∀ number, argument.number? = some number → number.toUInt64? = none) ∧
      cause = .argumentRole member.name 1 .count argument.kind := by
  unfold countOf
  cases argument.number? with
  | none => simp [eq_comm]
  | some number =>
      simp only [Option.bind_some, Option.some.injEq, forall_eq']
      cases number.toUInt64? <;> simp [eq_comm]

theorem accepts_iff {arity : Arity} {count : Nat} :
    arity.accepts count = true ↔ arity.least ≤ count ∧ count ≤ arity.most := by
  simp [Arity.accepts]

/-! ### Filters -/

theorem Filters.clauseOf_two {field value : Argument} (filters : member.Filters) :
    member.clauseOf [field, value] =
      member.textOf 1 field >>= fun name => Clause.ofArgument name .eq value := by
  cases filters <;> rfl

theorem Filters.clauseOf_three {field operator value : Argument} (filters : member.Filters) :
    member.clauseOf [field, operator, value] =
      member.textOf 1 field >>= fun name => member.textOf 2 operator >>= fun word =>
        Operator.ofWord word >>= fun known => Clause.ofArgument name known value := by
  cases filters <;> rfl

theorem Filters.clauseOf_two_eq_error_iff {field value : Argument} (filters : member.Filters) :
    member.clauseOf [field, value] = .error cause ↔
      (field.text? = none ∧ cause = .argumentRole member.name 1 .text field.kind) ∨
        ∃ name, field.text? = some name ∧ Operand.Refuses .eq value cause := by
  simp only [filters.clauseOf_two, bind_eq_error_iff, textOf_eq_error_iff, textOf_eq_ok_iff,
    Clause.ofArgument_eq_error_iff]

theorem Filters.clauseOf_three_eq_error_iff {field operator value : Argument} (filters : member.Filters) :
    member.clauseOf [field, operator, value] = .error cause ↔
      (field.text? = none ∧ cause = .argumentRole member.name 1 .text field.kind) ∨
        ∃ name, field.text? = some name ∧
          ((operator.text? = none ∧ cause = .argumentRole member.name 2 .text operator.kind) ∨
            ∃ word, operator.text? = some word ∧
              ((Operator.ofWord? word = none ∧ cause = .unknownOperator word) ∨
                ∃ known, Operator.ofWord? word = some known ∧ Operand.Refuses known value cause)) := by
  simp only [filters.clauseOf_three, bind_eq_error_iff, textOf_eq_error_iff, textOf_eq_ok_iff,
    Operator.ofWord_eq_error_iff, Operator.ofWord_eq_ok_iff, Clause.ofArgument_eq_error_iff]

/-- The arguments of a filter are a field and a value, perhaps with an operator between them. -/
theorem Filters.shape (filters : member.Filters) (accepted : member.arity.accepts args.length = true) :
    (∃ field value, args = [field, value]) ∨ ∃ field operator value, args = [field, operator, value] := by
  have counted : 2 ≤ args.length ∧ args.length ≤ 3 := by
    cases filters <;> exact accepts_iff.mp accepted
  match args, counted with
  | [field, value], _ => exact .inl ⟨field, value, rfl⟩
  | [field, operator, value], _ => exact .inr ⟨field, operator, value, rfl⟩

theorem Filters.clauseOf_eq_error_iff (filters : member.Filters) :
    member.clauseOf args = .error cause ↔ member.Refuses args cause := by
  constructor
  · intro failed
    cases accepted : member.arity.accepts args.length with
    | false =>
        cases (checkCount_bind_eq accepted).symm.trans failed
        exact .wrongCount accepted
    | true =>
        rcases filters.shape accepted with ⟨field, value, rfl⟩ | ⟨field, operator, value, rfl⟩
        · rcases filters.clauseOf_two_eq_error_iff.mp failed with ⟨wordless, rfl⟩ | ⟨name, named, unfit⟩
          · exact .fieldNotText (.filter filters) accepted wordless
          · exact .valueUnfit filters named unfit
        · rcases filters.clauseOf_three_eq_error_iff.mp failed with ⟨wordless, rfl⟩ |
            ⟨name, named, ⟨wordless, rfl⟩ | ⟨word, spelled, ⟨unknown, rfl⟩ | ⟨known, found, unfit⟩⟩⟩
          · exact .fieldNotText (.filter filters) accepted wordless
          · exact .operatorNotText filters named wordless
          · exact .operatorUnknown filters named spelled unknown
          · exact .operandUnfit filters named spelled found unfit
  · intro refuses
    cases refuses with
    | wrongCount unaccepted => exact checkCount_bind_eq unaccepted
    | fieldNotText reads accepted wordless =>
        rcases filters.shape accepted with ⟨field, value, same⟩ | ⟨field, operator, value, same⟩
        · cases same
          exact filters.clauseOf_two_eq_error_iff.mpr (.inl ⟨wordless, rfl⟩)
        · cases same
          exact filters.clauseOf_three_eq_error_iff.mpr (.inl ⟨wordless, rfl⟩)
    | valueUnfit filters named unfit =>
        exact filters.clauseOf_two_eq_error_iff.mpr (.inr ⟨_, named, unfit⟩)
    | operatorNotText filters named wordless =>
        exact filters.clauseOf_three_eq_error_iff.mpr (.inr ⟨_, named, .inl ⟨wordless, rfl⟩⟩)
    | operatorUnknown filters named spelled unknown =>
        exact filters.clauseOf_three_eq_error_iff.mpr
          (.inr ⟨_, named, .inr ⟨_, spelled, .inl ⟨unknown, rfl⟩⟩⟩)
    | operandUnfit filters named spelled found unfit =>
        exact filters.clauseOf_three_eq_error_iff.mpr
          (.inr ⟨_, named, .inr ⟨_, spelled, .inr ⟨_, found, unfit⟩⟩⟩)
    | directionNotText named wordless => cases filters
    | directionUnknown named spelled unknown => cases filters
    | notCount reads uncounted => cases filters <;> cases reads

/-! ### Sorting -/

theorem keyOf_one {field : Argument} :
    sortBy.keyOf [field] = sortBy.textOf 1 field >>= fun name => .ok ⟨name, .ascending⟩ := rfl

theorem keyOf_two {field direction : Argument} :
    sortBy.keyOf [field, direction] =
      sortBy.textOf 1 field >>= fun name => sortBy.textOf 2 direction >>= fun word =>
        Direction.ofWord word >>= fun known => .ok ⟨name, known⟩ := rfl

theorem keyOf_one_eq_error_iff {field : Argument} :
    sortBy.keyOf [field] = .error cause ↔
      field.text? = none ∧ cause = .argumentRole sortBy.name 1 .text field.kind := by
  simp only [keyOf_one, bind_eq_error_iff, textOf_eq_error_iff, reduceCtorEq, and_false, exists_false,
    or_false]

theorem keyOf_two_eq_error_iff {field direction : Argument} :
    sortBy.keyOf [field, direction] = .error cause ↔
      (field.text? = none ∧ cause = .argumentRole sortBy.name 1 .text field.kind) ∨
        ∃ name, field.text? = some name ∧
          ((direction.text? = none ∧ cause = .argumentRole sortBy.name 2 .text direction.kind) ∨
            ∃ word, direction.text? = some word ∧
              Direction.ofWord? word = none ∧ cause = .unknownDirection word) := by
  simp only [keyOf_two, bind_eq_error_iff, textOf_eq_error_iff, textOf_eq_ok_iff,
    Direction.ofWord_eq_error_iff, reduceCtorEq, and_false, exists_false, or_false]

theorem shape_sortBy (accepted : sortBy.arity.accepts args.length = true) :
    (∃ field, args = [field]) ∨ ∃ field direction, args = [field, direction] := by
  match args, accepts_iff.mp accepted with
  | [field], _ => exact .inl ⟨field, rfl⟩
  | [field, direction], _ => exact .inr ⟨field, direction, rfl⟩

theorem keyOf_eq_error_iff : sortBy.keyOf args = .error cause ↔ sortBy.Refuses args cause := by
  constructor
  · intro failed
    cases accepted : sortBy.arity.accepts args.length with
    | false =>
        cases (checkCount_bind_eq accepted).symm.trans failed
        exact .wrongCount accepted
    | true =>
        rcases shape_sortBy accepted with ⟨field, rfl⟩ | ⟨field, direction, rfl⟩
        · obtain ⟨wordless, rfl⟩ := keyOf_one_eq_error_iff.mp failed
          exact .fieldNotText .sortBy accepted wordless
        · rcases keyOf_two_eq_error_iff.mp failed with ⟨wordless, rfl⟩ |
            ⟨name, named, ⟨wordless, rfl⟩ | ⟨word, spelled, unknown, rfl⟩⟩
          · exact .fieldNotText .sortBy accepted wordless
          · exact .directionNotText named wordless
          · exact .directionUnknown named spelled unknown
  · intro refuses
    cases refuses with
    | wrongCount unaccepted => exact checkCount_bind_eq unaccepted
    | fieldNotText reads accepted wordless =>
        rcases shape_sortBy accepted with ⟨field, same⟩ | ⟨field, direction, same⟩
        · cases same
          exact keyOf_one_eq_error_iff.mpr ⟨wordless, rfl⟩
        · cases same
          exact keyOf_two_eq_error_iff.mpr (.inl ⟨wordless, rfl⟩)
    | directionNotText named wordless =>
        exact keyOf_two_eq_error_iff.mpr (.inr ⟨_, named, .inl ⟨wordless, rfl⟩⟩)
    | directionUnknown named spelled unknown =>
        exact keyOf_two_eq_error_iff.mpr (.inr ⟨_, named, .inr ⟨_, spelled, unknown, rfl⟩⟩)
    | valueUnfit filters named unfit => cases filters
    | operatorNotText filters named wordless => cases filters
    | operatorUnknown filters named spelled unknown => cases filters
    | operandUnfit filters named spelled found unfit => cases filters
    | notCount reads uncounted => cases reads

/-! ### Counts and no arguments -/

theorem ReadsCount.shape (reads : member.ReadsCount) (accepted : member.arity.accepts args.length = true) :
    ∃ argument, args = [argument] := by
  have counted : 1 ≤ args.length ∧ args.length ≤ 1 := by
    cases reads <;> exact accepts_iff.mp accepted
  exact List.length_eq_one_iff.mp (Nat.le_antisymm counted.2 counted.1)

theorem ReadsCount.onlyCountOf_one (reads : member.ReadsCount) :
    member.onlyCountOf [argument] = member.countOf argument := by
  cases reads <;> rfl

theorem ReadsCount.onlyCountOf_eq_error_iff (reads : member.ReadsCount) :
    member.onlyCountOf args = .error cause ↔ member.Refuses args cause := by
  constructor
  · intro failed
    cases accepted : member.arity.accepts args.length with
    | false =>
        cases (checkCount_bind_eq accepted).symm.trans failed
        exact .wrongCount accepted
    | true =>
        obtain ⟨argument, rfl⟩ := reads.shape accepted
        rw [reads.onlyCountOf_one] at failed
        obtain ⟨uncounted, rfl⟩ := countOf_eq_error_iff.mp failed
        exact .notCount reads uncounted
  · intro refuses
    cases refuses with
    | wrongCount unaccepted => exact checkCount_bind_eq unaccepted
    | notCount _ uncounted =>
        rw [reads.onlyCountOf_one]
        exact countOf_eq_error_iff.mpr ⟨uncounted, rfl⟩
    | fieldNotText other accepted wordless =>
        cases other with
        | filter filters => cases filters <;> cases reads
        | sortBy => cases reads
    | valueUnfit filters named unfit => cases filters <;> cases reads
    | operatorNotText filters named wordless => cases filters <;> cases reads
    | operatorUnknown filters named spelled unknown => cases filters <;> cases reads
    | operandUnfit filters named spelled found unfit => cases filters <;> cases reads
    | directionNotText named wordless => cases reads
    | directionUnknown named spelled unknown => cases reads

theorem checkCount_reverse_eq_error_iff :
    reverse.checkCount args = .error cause ↔ reverse.Refuses args cause := by
  rw [checkCount_eq_error_iff]
  constructor
  · rintro ⟨unaccepted, rfl⟩
    exact .wrongCount unaccepted
  · intro refuses
    cases refuses with
    | wrongCount unaccepted => exact ⟨unaccepted, rfl⟩
    | fieldNotText other accepted wordless =>
        cases other with
        | filter filters => cases filters
    | valueUnfit filters named unfit => cases filters
    | operatorNotText filters named wordless => cases filters
    | operatorUnknown filters named spelled unknown => cases filters
    | operandUnfit filters named spelled found unfit => cases filters
    | notCount reads uncounted => cases reads

/-- The member fails on exactly the arguments that it refuses. -/
theorem changeOf_eq_error_iff {α : Type} [Record α] :
    (member.changeOf args : Except QueryError (List α → List α)) = .error cause ↔
      member.Refuses args cause := by
  cases member with
  | keep => exact map_eq_error_iff.trans Filters.keep.clauseOf_eq_error_iff
  | drop => exact map_eq_error_iff.trans Filters.drop.clauseOf_eq_error_iff
  | sortBy => exact map_eq_error_iff.trans keyOf_eq_error_iff
  | limit => exact map_eq_error_iff.trans ReadsCount.limit.onlyCountOf_eq_error_iff
  | offset => exact map_eq_error_iff.trans ReadsCount.offset.onlyCountOf_eq_error_iff
  | reverse => exact map_eq_error_iff.trans checkCount_reverse_eq_error_iff

end QueryMember

end PipeQuery
