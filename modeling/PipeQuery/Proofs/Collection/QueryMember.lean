import PipeQuery.Collection.QueryMember
import PipeQuery.Proofs.Chain.Execution
import PipeQuery.Proofs.Table

/-!
# Calls of query members

A collection offers a query member if a call of its name does what the member does, whatever else can be
called on the collection. Such a call changes the items as its arguments ask for, or nothing at all if the
arguments are refused. Where the query members are the only ones, a call can do nothing else.
-/

set_option autoImplicit false

namespace PipeQuery

namespace QueryMember

/-- A call of the member. -/
def call (member : QueryMember) (args : List Argument) : Call :=
  ⟨member.name, args⟩

theorem isReserved_name (member : QueryMember) : isReserved member.name = false := by
  cases member <;> decide

end QueryMember

theorem Reply.mapCause_id {ε : Type} (reply : Reply ε) : reply.mapCause id = reply := by
  cases reply <;> rfl

namespace Collection

variable {α μ ε : Type}

/-! ## Collections that offer query members -/

section Offers

variable [Record α] [Behaviour α μ ε]

/-- What stands under the member's name does what the member does. It may word the member's causes of
failure otherwise. -/
def Offers (express : QueryError → ε) (collection : Collection α μ) (member : QueryMember) : Prop :=
  ∃ registered : μ, collection.members.find? member.name = some registered ∧
    ∀ (target : Collection α μ) (args : List Argument), Behaviour.act registered target args =
      ((member.act target args).1, (member.act target args).2.mapCause express)

variable {express : QueryError → ε} {collection : Collection α μ} {member : QueryMember}
  {args : List Argument}

theorem Offers.resolve (offers : collection.Offers express member) (items : List α) :
    ∃ found : Member (Collection α μ) ε,
      Chainable.resolve { collection with items } member.name = some found ∧
        ∀ target args, found target args =
          ((member.act target args).1, (member.act target args).2.mapCause express) := by
  obtain ⟨registered, found, agrees⟩ := offers
  exact ⟨Behaviour.act registered, by simp only [Chainable.resolve, found, Option.map_some], agrees⟩

theorem Offers.applies {change : List α → List α} (offers : collection.Offers express member)
    (accepted : member.changeOf args = .ok change) (items : List α) :
    Chain.Applies { collection with items } (member.call args)
      { collection with items := change items } := by
  obtain ⟨found, resolved, agrees⟩ := offers.resolve items
  refine .applied member.isReserved_name resolved ?_
  simp only [agrees, QueryMember.act, QueryMember.call, accepted]
  rfl

theorem Offers.stops {cause : QueryError} (offers : collection.Offers express member)
    (refused : (member.changeOf args : Except QueryError (List α → List α)) = .error cause) :
    Chain.Stops collection (member.call args) collection (.failed member.name (express cause)) := by
  obtain ⟨found, resolved, agrees⟩ := offers.resolve collection.items
  refine .failed member.isReserved_name resolved ?_
  simp only [agrees, QueryMember.act, QueryMember.call, refused]
  rfl

omit [Record α] in
theorem execute_steps {ι : Type} {call : ι → Call} {change : ι → List α → List α}
    (collection : Collection α μ) (steps : List ι)
    (applies : ∀ step ∈ steps, ∀ items, Chain.Applies { collection with items } (call step)
      { collection with items := change step items }) :
    Chain.execute collection (steps.map call) =
      (collection.mapItems (steps.foldl fun items step => change step items), .ok ()) := by
  -- The later steps run on what the first has left of the items, among the same members.
  induction steps generalizing collection with
  | nil => rfl
  | cons step steps ih =>
      have first := applies step List.mem_cons_self collection.items
      have later := ih { collection with items := change step collection.items } fun other member =>
        applies other (List.mem_cons_of_mem _ member)
      rw [List.map_cons, first.execute_cons, later]
      rfl

end Offers

/-! ## Collections with the query members -/

theorem find?_registerAll_of_ne {entries : List (String × μ)} {name : String}
    (different : ∀ entry ∈ entries, name ≠ entry.1) (collection : Collection α μ) :
    (collection.registerAll entries).members.find? name = collection.members.find? name := by
  induction entries generalizing collection with
  | nil => rfl
  | cons entry entries ih =>
      have later := ih (fun other member => different other (List.mem_cons_of_mem _ member))
        (collection.register entry.1 entry.2)
      exact later.trans (Table.find?_insert_of_ne (different entry List.mem_cons_self) _ _)

theorem find?_registerAll {entries : List (String × μ)} (distinct : (entries.map Prod.fst).Nodup)
    {name : String} {member : μ} (registered : (name, member) ∈ entries) (collection : Collection α μ) :
    (collection.registerAll entries).members.find? name = some member := by
  induction entries generalizing collection with
  | nil => cases registered
  | cons entry entries ih =>
      obtain ⟨unique, others⟩ := List.nodup_cons.mp distinct
      rcases List.mem_cons.mp registered with rfl | later
      · have different : ∀ entry ∈ entries, name ≠ entry.1 := by
          intro entry among same
          exact unique (List.mem_map.mpr ⟨entry, among, same.symm⟩)
        have kept := find?_registerAll_of_ne different (collection.register name member)
        exact kept.trans (Table.find?_insert_self _ _ _)
      · exact ih others later (collection.register entry.1 entry.2)

theorem find?_withQueryMembers (embed : QueryMember → μ) (collection : Collection α μ)
    (member : QueryMember) :
    (collection.withQueryMembers embed).members.find? member.name = some (embed member) := by
  have names : (QueryMember.every.map QueryMember.name).Nodup := by decide
  have distinct : ((QueryMember.every.map fun member => (member.name, embed member)).map Prod.fst).Nodup := by
    rw [List.map_map]
    exact names
  have registered : (member.name, embed member) ∈
      QueryMember.every.map fun member => (member.name, embed member) :=
    List.mem_map.mpr ⟨member, by cases member <;> decide, rfl⟩
  exact find?_registerAll distinct registered collection

theorem offers_withQueryMembers [Record α] [Behaviour α μ ε] {embed : QueryMember → μ}
    {express : QueryError → ε}
    (agrees : ∀ member (target : Collection α μ) args, Behaviour.act (embed member) target args =
      ((QueryMember.act member target args).1, (QueryMember.act member target args).2.mapCause express))
    (collection : Collection α μ) (member : QueryMember) :
    (collection.withQueryMembers embed).Offers express member :=
  ⟨embed member, find?_withQueryMembers embed collection member, agrees member⟩

/-- The collection of some items with the query members and no others. -/
def queryable (items : List α) (limits : Limits) : Collection α QueryMember :=
  ((ofList items).withQueryMembers id).withLimits limits

theorem name_of_mem_members_queryable {items : List α} {limits : Limits} {entry : String × QueryMember}
    (registered : entry ∈ (queryable items limits).members) : entry.2.name = entry.1 := by
  have names : ∀ entry ∈ (queryable ([] : List Unit) {}).members, entry.2.name = entry.1 := by decide
  exact names entry registered

variable [Record α] {items : List α} {limits : Limits}

theorem offers_queryable (items : List α) (limits : Limits) (member : QueryMember) :
    (queryable items limits).Offers id member := by
  have offers : ((ofList items).withQueryMembers id).Offers id member := by
    refine offers_withQueryMembers (fun member target args => ?_) (ofList items) member
    rw [Reply.mapCause_id]
    rfl
  exact offers

/-- A call of a name either is the call of a query member or finds no member. -/
theorem resolve_queryable_cases (items : List α) (limits : Limits) (name : String) :
    (∃ member : QueryMember, member.name = name) ∨ Chainable.resolve (queryable items limits) name = none := by
  cases found : (queryable items limits).members.find? name with
  | none => exact .inr (by simp only [Chainable.resolve, found, Option.map_none])
  | some member => exact .inl ⟨member, name_of_mem_members_queryable (Table.mem_of_find? found)⟩

/-- A call either changes the items as a query member is asked to, or stops the run and changes
nothing. -/
theorem queryable_call_cases (items : List α) (limits : Limits) (call : Call) :
    (∃ (member : QueryMember) (args : List Argument) (change : List α → List α),
        call = member.call args ∧ member.changeOf args = .ok change ∧
        Chain.Applies (queryable items limits) call (queryable (change items) limits)) ∨
      ∃ error, Chain.Stops (queryable items limits) call (queryable items limits) error := by
  obtain ⟨name, args⟩ := call
  cases open? : isReserved name with
  | true => exact .inr ⟨_, .reserved open?⟩
  | false =>
      rcases resolve_queryable_cases items limits name with ⟨member, rfl⟩ | unresolved
      · have offers := offers_queryable items limits member
        cases asked : (member.changeOf args : Except QueryError (List α → List α)) with
        | ok change => exact .inl ⟨member, args, change, rfl, asked, offers.applies asked items⟩
        | error cause => exact .inr ⟨_, offers.stops asked⟩
      · exact .inr ⟨_, .unknown open? unresolved⟩

theorem exists_change_of_applies {call : Call} {after : Collection α QueryMember}
    (applies : Chain.Applies (queryable items limits) call after) :
    ∃ (member : QueryMember) (args : List Argument) (change : List α → List α),
      call = member.call args ∧ member.changeOf args = .ok change ∧
      after = queryable (change items) limits := by
  rcases queryable_call_cases items limits call with
    ⟨member, args, change, made, asked, reached⟩ | ⟨error, stops⟩
  · exact ⟨member, args, change, made, asked, applies.unique reached⟩
  · exact absurd stops applies.not_stops

theorem eq_of_stops {call : Call} {after : Collection α QueryMember} {error : ChainError QueryError}
    (stops : Chain.Stops (queryable items limits) call after error) : after = queryable items limits := by
  rcases queryable_call_cases items limits call with
    ⟨_, _, _, _, _, applies⟩ | ⟨cause, unchanged⟩
  · exact absurd stops applies.not_stops
  · exact (stops.unique unchanged).1

end Collection

end PipeQuery
