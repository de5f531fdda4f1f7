import PipeQuery.Proofs.Record.Order
import PipeQuery.Query.SortKey
import PipeQuery.Record.Document

/-!
# Laws of the comparison by sort keys

Two items compare the other way round when they are exchanged, whatever their fields hold. Values that
cannot be compared count as equal, and numbers of different kinds are rounded first, so the comparison
need not be transitive. It is where no value ties with two others of which one is less than the other.
-/

set_option autoImplicit false

namespace PipeQuery

namespace SortKey

/-! ## One key -/

section Values

variable {key : SortKey} {left right middle : FieldValue}

/-- The order of two values under a key, where values that cannot be compared are equal. -/
def order (key : SortKey) (left right : FieldValue) : Ordering :=
  (key.compare? left right).getD .eq

theorem order_of_there (leftThere : left ≠ .missing) (rightThere : right ≠ .missing) :
    key.order left right =
      match key.direction with
      | .ascending => left.order right
      | .descending => right.order left := by
  unfold order compare?
  rw [FieldValue.isMissing_eq_false leftThere, FieldValue.isMissing_eq_false rightThere]
  cases key.direction with
  | ascending => cases compared : left.compare? right <;> simp [FieldValue.order, Direction.apply, compared]
  | descending =>
      rw [FieldValue.compare?_swap left right]
      cases compared : right.compare? left <;> simp [FieldValue.order, Direction.apply, compared]

theorem order_missing_left_ne_lt : key.order .missing right ≠ .lt := by
  cases right <;> simp [order, compare?, FieldValue.isMissing]

theorem order_missing_right (there : left ≠ .missing) : key.order left .missing = .lt := by
  rw [order, compare?, FieldValue.isMissing_eq_false there]
  rfl

theorem order_swap (key : SortKey) (left right : FieldValue) :
    key.order left right = (key.order right left).swap := by
  by_cases leftThere : left = .missing
  · subst leftThere
    cases right <;> rfl
  by_cases rightThere : right = .missing
  · subst rightThere
    cases left <;> rfl
  rw [order_of_there leftThere rightThere, order_of_there rightThere leftThere]
  cases key.direction with
  | ascending => exact FieldValue.order_swap left right
  | descending => exact FieldValue.order_swap right left

theorem order_eq_iff : key.order left right = .eq ↔ left.Ties right := by
  rw [FieldValue.ties_iff]
  by_cases leftThere : left = .missing
  · subst leftThere
    cases right <;> exact Iff.rfl
  by_cases rightThere : right = .missing
  · subst rightThere
    cases left <;> exact Iff.rfl
  rw [order_of_there leftThere rightThere]
  cases key.direction with
  | ascending => exact Iff.rfl
  | descending => rw [FieldValue.order_swap right left, Ordering.swap_eq_eq]

theorem below_of_order_lt (less : key.order left right = .lt) :
    left.compare? right = some .lt ∨ right.compare? left = some .lt := by
  by_cases leftThere : left = .missing
  · subst leftThere
    exact absurd less order_missing_left_ne_lt
  by_cases rightThere : right = .missing
  · subst rightThere
    exact .inl (FieldValue.compare?_missing leftThere)
  rw [order_of_there leftThere rightThere] at less
  cases direction : key.direction with
  | ascending =>
      rw [direction] at less
      exact .inl (FieldValue.order_lt_iff.mp less)
  | descending =>
      rw [direction] at less
      exact .inr (FieldValue.order_lt_iff.mp less)

theorem order_lt_trans (first : key.order left middle = .lt) (second : key.order middle right = .lt) :
    key.order left right = .lt := by
  have leftThere : left ≠ .missing := by
    rintro rfl
    exact order_missing_left_ne_lt first
  have middleThere : middle ≠ .missing := by
    rintro rfl
    exact order_missing_left_ne_lt second
  by_cases rightThere : right = .missing
  · rw [rightThere]
    exact order_missing_right leftThere
  rw [order_of_there leftThere middleThere] at first
  rw [order_of_there middleThere rightThere] at second
  rw [order_of_there leftThere rightThere]
  cases direction : key.direction with
  | ascending =>
      rw [direction] at first second
      simp only [FieldValue.order_lt_iff] at first second ⊢
      exact FieldValue.compare?_lt_trans first second
  | descending =>
      rw [direction] at first second
      simp only [FieldValue.order_lt_iff] at first second ⊢
      exact FieldValue.compare?_lt_trans second first

theorem transCmp_order (key : SortKey) {values : List FieldValue} (agree : FieldValue.TiesAgree values) :
    Std.TransCmp fun left right : {value // value ∈ values} => key.order left.1 right.1 := by
  refine transCmp_of_lt_trans (fun left right => key.order_swap left.1 right.1)
    (fun _ _ _ => order_lt_trans) fun low high value less tiesLow tiesHigh => ?_
  rw [order_eq_iff] at tiesLow tiesHigh
  rcases below_of_order_lt less with below | below
  · exact agree low.1 low.2 high.1 high.2 below value.1 value.2 ⟨tiesLow, tiesHigh⟩
  · exact agree high.1 high.2 low.1 low.2 below value.1 value.2 ⟨tiesHigh, tiesLow⟩

/-- Where ties agree, a chain of values under a key ascends as a whole, or all of it ties. -/
theorem lt_or_ties_of_chain {values : List FieldValue} (agree : FieldValue.TiesAgree values)
    (leftMember : left ∈ values) (middleMember : middle ∈ values) (rightMember : right ∈ values)
    (ascends : key.order left middle ≠ .gt) (further : key.order middle right ≠ .gt) :
    key.order left right = .lt ∨ left.Ties middle ∧ left.Ties right ∧ middle.Ties right := by
  have lawful := transCmp_order key agree
  let a : {value // value ∈ values} := ⟨left, leftMember⟩
  let b : {value // value ∈ values} := ⟨middle, middleMember⟩
  let c : {value // value ∈ values} := ⟨right, rightMember⟩
  have lower : (key.order a.1 b.1).isLE = true := Ordering.isLE_iff_ne_gt.mpr ascends
  have upper : (key.order b.1 c.1).isLE = true := Ordering.isLE_iff_ne_gt.mpr further
  have through : (key.order a.1 c.1).isLE = true := lawful.isLE_trans lower upper
  cases outcome : key.order left right with
  | lt => exact .inl rfl
  | gt => simp [a, c, outcome] at through
  | eq =>
      have back : (key.order c.1 a.1).isLE = true := by
        rw [order_swap, outcome]
        rfl
      have lowerTies : key.order a.1 b.1 = .eq :=
        lawful.toOrientedCmp.isLE_antisymm lower (lawful.isLE_trans upper back)
      have upperTies : key.order b.1 c.1 = .eq :=
        lawful.toOrientedCmp.isLE_antisymm upper (lawful.isLE_trans back lower)
      exact .inr ⟨order_eq_iff.mp lowerTies, order_eq_iff.mp outcome, order_eq_iff.mp upperTies⟩

/-- Ties agree among values that a key compares transitively, in whatever direction. -/
theorem tiesAgree_of_order_trans (key : SortKey) {values : List FieldValue}
    (transitive : ∀ low ∈ values, ∀ middle ∈ values, ∀ high ∈ values,
      key.order low middle ≠ .gt → key.order middle high ≠ .gt → key.order low high ≠ .gt) :
    FieldValue.TiesAgree values := by
  intro low lowMember high highMember less value member ⟨tiesLow, tiesHigh⟩
  have level {left right : FieldValue} (ties : left.Ties right) : key.order left right ≠ .gt := by
    rw [order_eq_iff.mpr ties]
    nofun
  have upward := transitive low lowMember value member high highMember (level tiesLow.symm) (level tiesHigh)
  have downward := transitive high highMember value member low lowMember (level tiesHigh.symm) (level tiesLow)
  rw [order_swap] at downward
  cases outcome : key.order low high with
  | lt => exact downward (by rw [outcome]; rfl)
  | gt => exact upward outcome
  | eq =>
      have same := FieldValue.ties_iff.mp (order_eq_iff.mp outcome)
      rw [FieldValue.order_lt_iff.mpr less] at same
      cases same

end Values

/-! ## Several keys -/

section Items

variable {α : Type} {field : α → String → FieldValue}

theorem compareAll_cons (key : SortKey) (later : List SortKey) (left right : α) :
    compareAll field (key :: later) left right =
      (key.order (field left key.field) (field right key.field)).then
        (compareAll field later left right) := by
  rw [compareAll, order]
  cases key.compare? (field left key.field) (field right key.field) with
  | none => rfl
  | some outcome => cases outcome <;> rfl

theorem compareAll_singleton (key : SortKey) (left right : α) :
    compareAll field [key] left right = key.order (field left key.field) (field right key.field) := by
  rw [compareAll_cons, compareAll, Ordering.then_eq]

theorem order_ne_gt_of_compareAll {key : SortKey} {later : List SortKey} {left right : α}
    (ascends : compareAll field (key :: later) left right ≠ .gt) :
    key.order (field left key.field) (field right key.field) ≠ .gt := by
  intro descends
  apply ascends
  rw [compareAll_cons, descends]
  rfl

theorem compareAll_swap (keys : List SortKey) (left right : α) :
    compareAll field keys left right = (compareAll field keys right left).swap := by
  induction keys with
  | nil => rfl
  | cons key later ih => rw [compareAll_cons, compareAll_cons, Ordering.swap_then, ← order_swap, ← ih]

theorem compareAll_self (keys : List SortKey) (item : α) : compareAll field keys item item = .eq := by
  have swapped : compareAll field keys item item = _ := compareAll_swap keys item item
  cases outcome : compareAll field keys item item with
  | eq => rfl
  | lt => simp [outcome] at swapped
  | gt => simp [outcome] at swapped

/-- Ties of the items agree under the first key, and if all the items tie under it, then also under the later
ones, which are left to tell them apart. -/
def TiesAgree (field : α → String → FieldValue) : List SortKey → List α → Prop
  | [], _ => True
  | key :: later, items =>
    FieldValue.TiesAgree (items.map fun item => field item key.field) ∧
      ((∀ left ∈ items, ∀ right ∈ items, (field left key.field).Ties (field right key.field)) →
        TiesAgree field later items)

theorem tiesAgree_of_forall {keys : List SortKey} {items : List α}
    (agree : ∀ key ∈ keys, FieldValue.TiesAgree (items.map fun item => field item key.field)) :
    TiesAgree field keys items := by
  induction keys with
  | nil => trivial
  | cons key later ih =>
      have others := ih fun other member => agree other (List.mem_cons_of_mem _ member)
      exact ⟨agree key List.mem_cons_self, fun _ => others⟩

theorem compareAll_cons_of_ties {key : SortKey} {later : List SortKey} {left right : α}
    (ties : (field left key.field).Ties (field right key.field)) :
    compareAll field (key :: later) left right = compareAll field later left right := by
  rw [compareAll_cons, order_eq_iff.mpr ties]
  rfl

theorem compareAll_trans {keys : List SortKey} {first second third : α}
    (agree : TiesAgree field keys [first, second, third]) (ascends : compareAll field keys first second ≠ .gt)
    (further : compareAll field keys second third ≠ .gt) : compareAll field keys first third ≠ .gt := by
  induction keys with
  | nil => nofun
  | cons key later ih =>
      obtain ⟨now, afterwards⟩ := agree
      have among {item : α} (member : item ∈ [first, second, third]) := List.mem_map_of_mem
        (f := fun item => field item key.field) member
      have chain := lt_or_ties_of_chain now (among (by simp)) (among (by simp)) (among (by simp))
        (order_ne_gt_of_compareAll ascends) (order_ne_gt_of_compareAll further)
      rcases chain with less | ⟨lower, outer, upper⟩
      · rw [compareAll_cons, less]
        nofun
      · rw [compareAll_cons_of_ties lower] at ascends
        rw [compareAll_cons_of_ties upper] at further
        rw [compareAll_cons_of_ties outer]
        refine ih (afterwards ?_) ascends further
        simp [lower, outer, upper, lower.symm, outer.symm, upper.symm, FieldValue.Ties.same]

theorem transCmp_compareAll {keys : List SortKey} {items : List α}
    (agree : ∀ key ∈ keys, FieldValue.TiesAgree (items.map fun item => field item key.field)) :
    Std.TransCmp fun left right : {item // item ∈ items} => compareAll field keys left.1 right.1 where
  eq_swap := compareAll_swap keys _ _
  isLE_trans := by
    intro first second third
    simp only [Ordering.isLE_iff_ne_gt]
    refine compareAll_trans (tiesAgree_of_forall fun key member => (agree key member).of_subset ?_)
    exact List.map_subset _ (by simp [first.2, second.2, third.2])

/-- Items that are compared transitively by the keys and by all leading ones of them have ties that agree. -/
theorem tiesAgree_of_transitive {keys : List SortKey} {items : List α}
    (transitive : ∀ leading, leading <+: keys → ∀ low ∈ items, ∀ middle ∈ items, ∀ high ∈ items,
      compareAll field leading low middle ≠ .gt → compareAll field leading middle high ≠ .gt →
        compareAll field leading low high ≠ .gt) : TiesAgree field keys items := by
  induction keys with
  | nil => trivial
  | cons key later ih =>
      refine ⟨?_, fun level => ih fun leading start low lowMember middle middleMember high highMember => ?_⟩
      · have alone := transitive [key] (List.cons_prefix_cons.mpr ⟨rfl, List.nil_prefix⟩)
        simp only [compareAll_singleton] at alone
        refine tiesAgree_of_order_trans key ?_
        simpa only [List.forall_mem_map] using alone
      · have tied {left right : α} (leftMember : left ∈ items) (rightMember : right ∈ items) :
            compareAll field (key :: leading) left right = compareAll field leading left right :=
          compareAll_cons_of_ties (level left leftMember right rightMember)
        have whole := transitive (key :: leading) (List.cons_prefix_cons.mpr ⟨rfl, start⟩) low lowMember middle
          middleMember high highMember
        rwa [tied lowMember middleMember, tied middleMember highMember, tied lowMember highMember] at whole

/-- Comparison by sort keys is reflexive and turns round with its arguments on all items. It is transitive
among three items whose ties agree under the first key, and, while all three tie, under the next ones, and
nothing less would do: the ties agree of every three items that all the leading keys compare transitively. They
agree of items whose values under each key are commensurable. -/
theorem compareAll_total_preorder (field : α → String → FieldValue) (keys : List SortKey)
    (first second third : α) :
    compareAll field keys first first = .eq ∧
      compareAll field keys first second = (compareAll field keys second first).swap ∧
      (TiesAgree field keys [first, second, third] →
        compareAll field keys first second ≠ .gt → compareAll field keys second third ≠ .gt →
          compareAll field keys first third ≠ .gt) ∧
      ((∀ leading, leading <+: keys → ∀ low ∈ [first, second, third], ∀ middle ∈ [first, second, third],
          ∀ high ∈ [first, second, third], compareAll field leading low middle ≠ .gt →
            compareAll field leading middle high ≠ .gt → compareAll field leading low high ≠ .gt) →
        TiesAgree field keys [first, second, third]) ∧
      ((∀ key ∈ keys, FieldValue.Commensurable
          [field first key.field, field second key.field, field third key.field]) →
        TiesAgree field keys [first, second, third]) := by
  refine ⟨compareAll_self keys first, compareAll_swap keys first second, compareAll_trans,
    tiesAgree_of_transitive, fun commensurable => tiesAgree_of_forall fun key member => ?_⟩
  exact (commensurable key member).tiesAgree

end Items

theorem compareAll_transitive_across_kinds :
    let keys : List SortKey := [⟨"n", .descending⟩, ⟨"s", .ascending⟩]
    let mixed : List SortKey := [⟨"n", .descending⟩, ⟨"m", .ascending⟩]
    let more : Json := .object [("n", .integer (2 ^ 53 + 3) (by decide)), ("m", .string "b")]
    let less : Json := .object [("n", .integer (2 ^ 53 + 1) (by decide)), ("m", .bool true), ("s", .string "x")]
    let half : Json := .object [("n", .fraction (.finite false (2 ^ 52) 1021 (by decide))), ("m", .string "a")]
    (∀ key ∈ keys, FieldValue.Commensurable
        [Record.field more key.field, Record.field less key.field, Record.field half key.field]) ∧
      TiesAgree Record.field keys [more, less, half] ∧
      compareAll Record.field keys more less ≠ .gt ∧ compareAll Record.field keys less half ≠ .gt ∧
      compareAll Record.field keys more half ≠ .gt ∧
      ¬ (Number.signed (2 ^ 53 + 1)).IsExact ∧ TiesAgree Record.field mixed [more, less, half] := by
  intro keys mixed more less half
  have commensurable : ∀ key ∈ keys, FieldValue.Commensurable
      [Record.field more key.field, Record.field less key.field, Record.field half key.field] := by
    simp only [keys, List.forall_mem_cons]
    refine ⟨.inr ?_, .inl ⟨.text, by decide +kernel⟩, by simp⟩
    have numbers : [Record.field more "n", Record.field less "n", Record.field half "n"] =
        [.number (.signed (2 ^ 53 + 3)), .number (.signed (2 ^ 53 + 1)),
          .number (.float (.finite false (2 ^ 52) 1021 (by decide)))] := by decide +kernel
    simp only [numbers, List.forall_mem_cons]
    have signed (value : Int64) : Number.signed value ≠ .float .nan :=
      FieldValue.proper_of_measures (.signed value)
    refine ⟨⟨.inr ⟨_, rfl, signed _⟩, .inr ⟨_, rfl, signed _⟩, .inr ⟨_, rfl, by simp⟩, by simp⟩, ?_⟩
    intro left right leftMember rightMember
    simp only [List.mem_cons, FieldValue.number.injEq, List.not_mem_nil, or_false] at leftMember rightMember
    rcases leftMember with rfl | rfl | rfl <;> rcases rightMember with rfl | rfl | rfl <;> decide +kernel
  obtain ⟨-, -, trans, -, agree⟩ := compareAll_total_preorder Record.field keys more less half
  obtain ⟨-, -, -, agreeOfTransitive, -⟩ := compareAll_total_preorder Record.field mixed more less half
  have ascends : compareAll Record.field keys more less ≠ .gt := by decide +kernel
  have further : compareAll Record.field keys less half ≠ .gt := by decide +kernel
  refine ⟨commensurable, agree commensurable, ascends, further,
    trans (agree commensurable) ascends further, ?_, agreeOfTransitive fun leading start => ?_⟩
  · rintro ⟨units, value, rounded⟩
    cases value
    revert rounded
    decide +kernel
  · rcases List.prefix_cons_iff.mp start with rfl | ⟨others, rfl, next⟩
    · decide +kernel
    rcases List.prefix_cons_iff.mp next with rfl | ⟨last, rfl, rest⟩
    · decide +kernel
    obtain rfl := List.prefix_nil.mp rest
    decide +kernel

/-- The comparison is not transitive on integers beside a float that stands for both of them after
rounding, nor on texts beside a number, with which neither can be compared. -/
theorem compareAll_not_transitive :
    let keys : List SortKey := [⟨"k", .ascending⟩]
    let odd : Json := .object [("k", .integer (2 ^ 53 + 1) (by decide))]
    let float : Json := .object [("k", .fraction (.finite false (2 ^ 52) 1075 (by decide)))]
    let even : Json := .object [("k", .integer (2 ^ 53) (by decide))]
    let b : Json := .object [("k", .string "b")]
    let one : Json := .object [("k", .integer 1 (by decide))]
    let a : Json := .object [("k", .string "a")]
    (compareAll Record.field keys odd float ≠ .gt ∧ compareAll Record.field keys float even ≠ .gt ∧
        compareAll Record.field keys odd even = .gt) ∧
      compareAll Record.field keys b one ≠ .gt ∧ compareAll Record.field keys one a ≠ .gt ∧
        compareAll Record.field keys b a = .gt := by
  decide +kernel

end SortKey

end PipeQuery
