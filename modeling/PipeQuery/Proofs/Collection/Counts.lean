import PipeQuery.Proofs.Collection.QueryMember
import PipeQuery.Proofs.Collection.Refusal
import PipeQuery.Proofs.Number.Whole
import PipeQuery.Record.Document

/-!
# Steps that take a count

A step that takes a count keeps or drops that many items from the first on. What is no count stops the run
and leaves the items as they are.
-/

set_option autoImplicit false

namespace PipeQuery

namespace QueryMember

/-- The member leaves of the items what the function cuts them down to by a count. -/
inductive Cuts {α : Type} : QueryMember → (Nat → List α → List α) → Prop where
  | limit : Cuts .limit List.take
  | offset : Cuts .offset List.drop

variable {α : Type} {member : QueryMember} {cut : Nat → List α → List α} {number : Number}

theorem Cuts.readsCount (cuts : member.Cuts cut) : member.ReadsCount := by
  cases cuts with
  | limit => exact .limit
  | offset => exact .offset

theorem Cuts.changeOf_eq [Record α] (cuts : member.Cuts cut) (args : List Argument) :
    member.changeOf args = (member.onlyCountOf args).map cut := by
  cases cuts <;> rfl

theorem countOf_number_eq_ok {count : UInt64} (read : number.toUInt64? = some count) :
    member.countOf (.number number) = .ok count.toNat := by
  rw [countOf, Argument.number?, Option.bind_some, read]

theorem Cuts.changeOf_number [Record α] (cuts : member.Cuts cut) {count : UInt64}
    (read : number.toUInt64? = some count) :
    member.changeOf [.number number] = .ok (cut count.toNat) := by
  rw [cuts.changeOf_eq, cuts.readsCount.onlyCountOf_one, countOf_number_eq_ok read]
  rfl

theorem Cuts.changeOf_number_eq_error [Record α] (cuts : member.Cuts cut)
    (unread : number.toUInt64? = none) :
    (member.changeOf [.number number] : Except QueryError (List α → List α)) =
      .error (.argumentRole member.name 1 .count .number) := by
  refine changeOf_eq_error_iff.mpr (.notCount cuts.readsCount ?_)
  rintro _ ⟨⟩
  exact unread

end QueryMember

namespace Collection

variable {α μ ε : Type} [Record α] [Behaviour α μ ε] {express : QueryError → ε} {collection : Collection α μ}
  {member : QueryMember} {cut : Nat → List α → List α} {number : Number}

theorem execute_count (offers : collection.Offers express member) (cuts : member.Cuts cut)
    {whole : Nat} (bounded : whole ≤ 2 ^ 64) (value : number.IsWhole whole) :
    Chain.execute collection [member.call [.number number]] =
      (collection.mapItems (cut (min whole (2 ^ 64 - 1))), .ok ()) := by
  have read := Number.toUInt64?_of_isWhole bounded value
  have change := cuts.changeOf_number read
  rw [UInt64.toNat_ofNat_of_lt' (show min whole (2 ^ 64 - 1) < 2 ^ 64 by omega)] at change
  exact (offers.applies change collection.items).execute_cons []

theorem execute_no_count (offers : collection.Offers express member) (cuts : member.Cuts cut)
    (uncounted : ∀ whole ≤ 2 ^ 64, ¬ number.IsWhole whole) :
    Chain.execute collection [member.call [.number number]] = (collection,
      .error (.failed member.name (express (.argumentRole member.name 1 .count .number)))) :=
  (offers.stops (cuts.changeOf_number_eq_error (Number.toUInt64?_eq_none_iff.mpr uncounted))).execute_cons []

/-- A number is read as a count if and only if its value is an integer of 64 bits without a sign, and the
count is its value, except that the first value out of range is read as the greatest count. A step that
keeps or drops items by a count takes exactly the numbers that are read, and with any other number it fails
and leaves the collection as it is. -/
theorem counts_are_exact_but_for_the_first_out_of_range {α μ ε : Type} [Record α] [Behaviour α μ ε] :
    (∀ number : Number, ¬ number.IsWhole (2 ^ 64) → ∀ count : UInt64,
      number.toUInt64? = some count ↔ number.IsWhole count.toNat) ∧
    (∀ number : Number, number.IsWhole (2 ^ 64) →
      number.toUInt64? = some (UInt64.ofNat (2 ^ 64 - 1))) ∧
    ∀ (express : QueryError → ε) (collection : Collection α μ) (member : QueryMember)
        (cut : Nat → List α → List α), member.Cuts cut → collection.Offers express member →
      ∀ number : Number,
        (∀ whole < 2 ^ 64, number.IsWhole whole →
          Chain.execute collection [member.call [.number number]] =
            (collection.mapItems (cut whole), .ok ())) ∧
        (number.IsWhole (2 ^ 64) → Chain.execute collection [member.call [.number number]] =
          (collection.mapItems (cut (2 ^ 64 - 1)), .ok ())) ∧
        ((∀ whole ≤ 2 ^ 64, ¬ number.IsWhole whole) →
          Chain.execute collection [member.call [.number number]] = (collection,
            .error (.failed member.name (express (.argumentRole member.name 1 .count .number))))) := by
  refine ⟨fun number inside count => Number.toUInt64?_eq_some_iff inside,
    fun number top => Number.toUInt64?_of_isWhole le_rfl top,
    fun express collection member cut cuts offers number => ⟨?_, ?_, execute_no_count offers cuts⟩⟩
  · intro whole below value
    have counted := execute_count offers cuts below.le value
    rwa [Nat.min_eq_left (by omega)] at counted
  · exact execute_count offers cuts le_rfl

theorem counts_of_floats_at_both_ends :
    let two : Number := .float (.finite false (2 ^ 52) 1023 (by decide))
    let half : Number := .float (.finite false (2 ^ 52) 1021 (by decide))
    let top : Number := .float (.finite false (2 ^ 52) 1086 (by decide))
    let collection : Collection Json QueryMember := queryable [.bool true, .null, .bool false] {}
    (¬ two.IsWhole (2 ^ 64) ∧ two.IsWhole 2 ∧ two.toUInt64? = some 2) ∧
      (top.IsWhole (2 ^ 64) ∧ top.toUInt64? = some 18446744073709551615) ∧
      Chain.execute collection [QueryMember.limit.call [.number two]] =
        (collection.mapItems (List.take 2), .ok ()) ∧
      Chain.execute collection [QueryMember.offset.call [.number top]] =
        (collection.mapItems (List.drop (2 ^ 64 - 1)), .ok ()) ∧
      (∀ whole ≤ 2 ^ 64, ¬ half.IsWhole whole) ∧
      Chain.execute collection [QueryMember.limit.call [.number half]] =
        (collection, .error (.failed "limit" (.argumentRole "limit" 1 .count .number))) := by
  intro two half top collection
  obtain ⟨exact, greatest, steps⟩ :=
    @counts_are_exact_but_for_the_first_out_of_range Json QueryMember QueryError _ _
  have inside : ¬ two.IsWhole (2 ^ 64) := by decide +kernel
  have value : two.IsWhole 2 := by decide +kernel
  have beyond : top.IsWhole (2 ^ 64) := by decide +kernel
  have uncounted : ∀ whole ≤ 2 ^ 64, ¬ half.IsWhole whole :=
    Number.toUInt64?_eq_none_iff.mp (by decide +kernel)
  have limits := steps id collection .limit _ .limit (offers_queryable collection.items {} .limit)
  have offsets := steps id collection .offset _ .offset (offers_queryable collection.items {} .offset)
  refine ⟨⟨inside, value, (exact two inside 2).mpr value⟩, ⟨beyond, greatest top beyond⟩,
    (limits two).1 2 (by decide) value, (offsets top).2.1 beyond, uncounted, (limits half).2.2 uncounted⟩

theorem count_out_of_range_is_accepted :
    let number : Number := .float (.finite false (2 ^ 52) 1086 (by decide))
    let collection : Collection Json QueryMember := queryable [.null] {}
    number.IsWhole 18446744073709551616 ∧ number.toUInt64? = some 18446744073709551615 ∧
      ¬ number.IsWhole 18446744073709551615 ∧
      Chain.execute collection [QueryMember.limit.call [.number number]] = (collection, .ok ()) := by
  intro number collection
  have beyond : number.IsWhole (2 ^ 64) := by decide +kernel
  have ran := execute_count (offers_queryable [Json.null] {} .limit) .limit le_rfl beyond
  refine ⟨beyond, by decide +kernel, by decide +kernel, ran.trans ?_⟩
  rfl

end Collection

end PipeQuery
