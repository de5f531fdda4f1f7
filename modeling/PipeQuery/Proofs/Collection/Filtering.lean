import PipeQuery.Proofs.Collection.QueryMember
import PipeQuery.Proofs.Collection.Refusal
import PipeQuery.Proofs.Query.Filtering

/-!
# Steps that filter

A step that keeps or drops the items of which a clause holds looks at each item alone. So a chain of such
steps is one query with their clauses, in whatever order they stand. Of which items a clause holds is left to
the clause: nothing here depends on how a pattern is found in a text.
-/

set_option autoImplicit false

namespace PipeQuery

/-- The arguments spell the clause: a field and the value that it is to equal, or an operator between
them. -/
inductive Clause.SpelledBy : List Argument → Clause → Prop where
  | equality {field value : Argument} {name : String} {clause : Clause}
      (named : field.text? = some name) (read : Clause.ofArgument name .eq value = .ok clause) :
      SpelledBy [field, value] clause
  | comparison {field operator value : Argument} {name word : String} {known : Operator} {clause : Clause}
      (named : field.text? = some name) (spelled : operator.text? = some word)
      (found : Operator.ofWord? word = some known)
      (read : Clause.ofArgument name known value = .ok clause) :
      SpelledBy [field, operator, value] clause

namespace QueryMember

variable {member : QueryMember} {args : List Argument} {clause : Clause}

theorem Filters.clauseOf_eq_ok_iff (filters : member.Filters) :
    member.clauseOf args = .ok clause ↔ Clause.SpelledBy args clause := by
  constructor
  · intro read
    cases accepted : member.arity.accepts args.length with
    | false => cases (checkCount_bind_eq accepted).symm.trans read
    | true =>
        rcases filters.shape accepted with ⟨field, value, rfl⟩ | ⟨field, operator, value, rfl⟩
        · rw [filters.clauseOf_two] at read
          obtain ⟨name, named, found⟩ := bind_eq_ok_iff.mp read
          exact .equality (textOf_eq_ok_iff.mp named) found
        · rw [filters.clauseOf_three] at read
          obtain ⟨name, named, read⟩ := bind_eq_ok_iff.mp read
          obtain ⟨word, spelled, read⟩ := bind_eq_ok_iff.mp read
          obtain ⟨known, found, read⟩ := bind_eq_ok_iff.mp read
          exact .comparison (textOf_eq_ok_iff.mp named) (textOf_eq_ok_iff.mp spelled)
            (Operator.ofWord_eq_ok_iff.mp found) read
  · intro spelledBy
    cases spelledBy with
    | equality named read =>
        rw [filters.clauseOf_two]
        exact bind_eq_ok_iff.mpr ⟨_, textOf_eq_ok_iff.mpr named, read⟩
    | comparison named spelled found read =>
        rw [filters.clauseOf_three]
        refine bind_eq_ok_iff.mpr ⟨_, textOf_eq_ok_iff.mpr named, ?_⟩
        refine bind_eq_ok_iff.mpr ⟨_, textOf_eq_ok_iff.mpr spelled, ?_⟩
        exact bind_eq_ok_iff.mpr ⟨_, Operator.ofWord_eq_ok_iff.mpr found, read⟩

/-- The members that filter accept the same arguments and read the same clause from them. -/
theorem clauseOf_drop_eq_ok_iff : drop.clauseOf args = .ok clause ↔ keep.clauseOf args = .ok clause :=
  Filters.drop.clauseOf_eq_ok_iff.trans Filters.keep.clauseOf_eq_ok_iff.symm

/-- The member that drops the items of which a clause holds, or else the one that keeps them. -/
def filtering (excludes : Bool) : QueryMember :=
  if excludes then .drop else .keep

theorem changeOf_filtering {α : Type} [Record α] {excludes : Bool}
    (read : (filtering excludes).clauseOf args = .ok clause) :
    (filtering excludes).changeOf args =
      .ok (List.filter fun item : α => Query.clauseHolds item clause != excludes) := by
  cases excludes with
  | false =>
      refine map_eq_ok_iff.mpr ⟨clause, read, funext fun items => ?_⟩
      rw [Query.apply_of_keys_eq_nil rfl]
      exact List.filter_congr fun item _ => by simp [Query.holds]
  | true =>
      refine map_eq_ok_iff.mpr ⟨clause, read, funext fun items => ?_⟩
      rw [Query.apply_of_keys_eq_nil rfl]
      exact List.filter_congr fun item _ => by simp [Query.holds]

end QueryMember

/-! ## Chains of steps -/

/-- A call that keeps or drops the items of which a clause holds, with arguments that are accepted. -/
structure FilterStep where
  /-- Whether the items of which the clause holds are dropped. -/
  excludes : Bool
  args : List Argument
  clause : Clause
  spells : (QueryMember.filtering excludes).clauseOf args = .ok clause

namespace FilterStep

def call (step : FilterStep) : Call :=
  (QueryMember.filtering step.excludes).call step.args

/-- The query that requires the clauses of the steps that keep and excludes those of the steps that
drop. -/
def query (steps : List FilterStep) : Query :=
  { required := (steps.filter fun step => !step.excludes).map FilterStep.clause
    excluded := (steps.filter FilterStep.excludes).map FilterStep.clause }

variable {α : Type} [Record α]

def keeps (step : FilterStep) (item : α) : Bool :=
  Query.clauseHolds item step.clause != step.excludes

theorem holds_query (steps : List FilterStep) (item : α) :
    (query steps).holds item = steps.all fun step => step.keeps item := by
  induction steps with
  | nil => rfl
  | cons step steps ih =>
      rw [List.all_cons, ← ih]
      -- A step that drops adds to the excluded clauses, which are looked at after all the required ones.
      cases excludes : step.excludes with
      | false => simp [query, Query.holds, keeps, excludes, Bool.and_assoc]
      | true => simp [query, Query.holds, keeps, excludes, Bool.and_left_comm]

theorem foldl_filter (steps : List FilterStep) (items : List α) :
    steps.foldl (fun items step => items.filter step.keeps) items = items.filter (query steps).holds := by
  induction steps generalizing items with
  | nil => exact (List.filter_eq_self.mpr fun item _ => Query.holds_of_isEmpty rfl item).symm
  | cons step steps ih =>
      rw [List.foldl_cons, ih, List.filter_filter]
      exact List.filter_congr fun item _ => by simp [holds_query, Bool.and_comm]

end FilterStep

namespace Collection

variable {α μ ε : Type} [Record α] [Behaviour α μ ε] {express : QueryError → ε} {collection : Collection α μ}

theorem offers_filtering (keeps : collection.Offers express .keep) (drops : collection.Offers express .drop)
    (excludes : Bool) : collection.Offers express (QueryMember.filtering excludes) := by
  cases excludes <;> assumption

theorem applies_filterStep (step : FilterStep)
    (offers : collection.Offers express (QueryMember.filtering step.excludes)) (items : List α) :
    Chain.Applies { collection with items } step.call
      { collection with items := items.filter step.keeps } :=
  offers.applies (QueryMember.changeOf_filtering step.spells) items

theorem execute_filterSteps (keeps : collection.Offers express .keep)
    (drops : collection.Offers express .drop) (steps : List FilterStep) :
    Chain.execute collection (steps.map FilterStep.call) =
      (collection.filter (FilterStep.query steps).holds, .ok ()) := by
  rw [execute_steps collection steps fun step _ =>
      applies_filterStep step (offers_filtering keeps drops step.excludes),
    filter, mapItems, mapItems, FilterStep.foldl_filter]

theorem execute_filtering (excludes : Bool) {args : List Argument} {clause : Clause}
    (offers : collection.Offers express (QueryMember.filtering excludes))
    (read : (QueryMember.filtering excludes).clauseOf args = .ok clause) :
    Chain.execute collection [(QueryMember.filtering excludes).call args] =
      (collection.filter fun item => Query.clauseHolds item clause != excludes, .ok ()) :=
  (offers.applies (QueryMember.changeOf_filtering read) collection.items).execute_cons []

theorem filter_holds_query_perm {steps others : List FilterStep} (permuted : steps.Perm others) :
    collection.filter (FilterStep.query steps).holds = collection.filter (FilterStep.query others).holds := by
  have same : (FilterStep.query steps).holds = ((FilterStep.query others).holds : α → Bool) := by
    funext item
    rw [FilterStep.holds_query, FilterStep.holds_query, permuted.all_eq]
  rw [same]

/-- A chain of steps that keep or drop items by clauses leaves the items of which one query holds, which
requires the clauses of the former and excludes those of the latter. The order of the steps does not
matter. The two members accept the same arguments, and with the same arguments each item is kept by one of
them and not by the other, an item without the field only by the one that drops. -/
theorem filter_steps_are_one_query (keeps : collection.Offers express .keep)
    (drops : collection.Offers express .drop) :
    (∀ steps : List FilterStep, Chain.execute collection (steps.map FilterStep.call) =
      (collection.filter (FilterStep.query steps).holds, .ok ())) ∧
    (∀ steps others : List FilterStep, steps.Perm others →
      Chain.execute collection (steps.map FilterStep.call) =
        Chain.execute collection (others.map FilterStep.call)) ∧
    ∀ args clause,
      (QueryMember.keep.clauseOf args = .ok clause ↔ QueryMember.drop.clauseOf args = .ok clause) ∧
      (QueryMember.keep.clauseOf args = .ok clause →
        Chain.execute collection [QueryMember.keep.call args] =
          (collection.filter fun item => Query.clauseHolds item clause, .ok ()) ∧
        Chain.execute collection [QueryMember.drop.call args] =
          (collection.filter fun item => !Query.clauseHolds item clause, .ok ()) ∧
        ∀ item : α, Record.field item clause.field = .missing → Query.clauseHolds item clause = false) := by
  refine ⟨execute_filterSteps keeps drops, ?_, ?_⟩
  · intro steps others permuted
    rw [execute_filterSteps keeps drops, execute_filterSteps keeps drops, filter_holds_query_perm permuted]
  · intro args clause
    refine ⟨QueryMember.clauseOf_drop_eq_ok_iff.symm, fun read => ?_⟩
    refine ⟨?_, ?_, fun item missing => Query.clauseHolds_of_missing missing⟩
    · have kept : Chain.execute collection [QueryMember.keep.call args] =
          (collection.filter fun item => Query.clauseHolds item clause != false, .ok ()) :=
        execute_filtering false keeps read
      simpa only [Bool.bne_false] using kept
    · have dropped : Chain.execute collection [QueryMember.drop.call args] =
          (collection.filter fun item => Query.clauseHolds item clause != true, .ok ()) :=
        execute_filtering true drops (QueryMember.clauseOf_drop_eq_ok_iff.mpr read)
      simpa only [Bool.bne_true] using dropped

theorem filter_steps_of_numbers_and_names :
    let collection : Collection Json QueryMember :=
      queryable [.object [("n", .integer 2 (by decide)), ("s", .string "x")],
        .object [("n", .integer 3 (by decide))], .object [("s", .string "y")]] {}
    let large : FilterStep :=
      ⟨false, [.bare "n", .bare ">", .number (.signed 1)], ⟨"n", .gt, .number (.signed 1)⟩, rfl⟩
    let named : FilterStep := ⟨true, [.bare "s", .str "x"], ⟨"s", .eq, .text "x"⟩, rfl⟩
    Chain.execute collection ([large, named].map FilterStep.call) =
        (collection.filter (FilterStep.query [large, named]).holds, .ok ()) ∧
      Chain.execute collection ([large, named].map FilterStep.call) =
        Chain.execute collection ([named, large].map FilterStep.call) ∧
      Chain.execute collection [QueryMember.keep.call large.args] =
        (collection.filter fun item => Query.clauseHolds item large.clause, .ok ()) ∧
      Query.clauseHolds (.object [("s", .string "y")] : Json) large.clause = false := by
  intro collection large named
  obtain ⟨queried, permuted, members⟩ := filter_steps_are_one_query
    (offers_queryable collection.items {} .keep) (offers_queryable collection.items {} .drop)
  obtain ⟨kept, -, lacking⟩ := (members large.args large.clause).2 rfl
  exact ⟨queried _, permuted _ _ (List.Perm.swap named large []), kept, lacking _ (by decide +kernel)⟩

end Collection

end PipeQuery
