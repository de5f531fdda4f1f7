import PipeQuery.Proofs.Number.Order
import PipeQuery.Record.FieldValue

/-!
# The order of field values

Among values of one kind being less is an order, but some values have no order at all and some numbers are
taken for equal though they differ. So a value may tie with two values of which one is less than the other.
Where none does, taking all ties for equality makes a total preorder of the values.
-/

set_option autoImplicit false

namespace PipeQuery

/-- A comparison is a total preorder if being less is transitive and no item is level with two of which one
is less than the other. -/
theorem transCmp_of_lt_trans {α : Type} {order : α → α → Ordering}
    (swap : ∀ left right, order left right = (order right left).swap)
    (trans : ∀ first second third,
      order first second = .lt → order second third = .lt → order first third = .lt)
    (level : ∀ low high item, order low high = .lt → order item low = .eq → order item high ≠ .eq) :
    Std.TransCmp order where
  eq_swap := swap _ _
  isLE_trans := by
    intro first second third lower upper
    rw [Ordering.isLE_iff_eq_lt_or_eq_eq] at lower upper
    rw [Ordering.isLE_iff_ne_gt]
    intro descends
    have below : order third first = .lt := by rw [swap, descends]; rfl
    rcases lower with less | same
    · rcases upper with further | same
      · rw [trans first second third less further] at descends
        cases descends
      · have around := trans third first second below less
        rw [swap, same] at around
        cases around
    · rcases upper with less | further
      · have around := trans second third first less below
        rw [swap, same] at around
        cases around
      · exact level third first second below further (by rw [swap, same]; rfl)

/-! ## Values on a scale -/

/-- What values may be measured on. -/
inductive Scale where
  | text
  | signed
  | unsigned
  | float
  | timestamp
  | bool
deriving DecidableEq

/-- The value is measured on the scale. A missing value and the float that is not a number are measured
on none. -/
inductive Scale.Measures : Scale → FieldValue → Prop where
  | text (value : String) : Measures .text (.text value)
  | signed (value : Int64) : Measures .signed (.number (.signed value))
  | unsigned (value : UInt64) : Measures .unsigned (.number (.unsigned value))
  | float {value : Binary64} : value ≠ .nan → Measures .float (.number (.float value))
  | timestamp (value : Timestamp) : Measures .timestamp (.timestamp value)
  | bool (value : Bool) : Measures .bool (.bool value)

namespace FieldValue

def scale? : FieldValue → Option Scale
  | .text _ => some .text
  | .number (.signed _) => some .signed
  | .number (.unsigned _) => some .unsigned
  | .number (.float value) => if value = .nan then none else some .float
  | .timestamp _ => some .timestamp
  | .bool _ => some .bool
  | .missing => none

theorem scale?_eq_some_iff {value : FieldValue} {scale : Scale} :
    value.scale? = some scale ↔ scale.Measures value := by
  constructor
  · intro found
    unfold scale? at found
    split at found
    case h_4 value =>
      obtain ⟨number, same⟩ := Option.ite_none_left_eq_some.mp found
      cases same
      exact .float number
    case h_7 => cases found
    all_goals
      cases found
      constructor
  · intro measured
    cases measured with
    | float number => exact if_neg number
    | _ => rfl

instance (scale : Scale) (value : FieldValue) : Decidable (scale.Measures value) :=
  decidable_of_iff _ scale?_eq_some_iff

theorem ne_missing_of_measures {scale : Scale} {value : FieldValue} (measured : scale.Measures value) :
    value ≠ .missing := by
  rintro rfl
  cases measured

theorem proper_of_measures {scale : Scale} {number : Number} (measured : scale.Measures (.number number)) :
    number ≠ .float .nan := by
  rintro rfl
  cases measured with
  | float proper => exact proper rfl

theorem exists_compare?_of_measures {scale : Scale} {left right : FieldValue}
    (leftMeasured : scale.Measures left) (rightMeasured : scale.Measures right) :
    ∃ outcome, left.compare? right = some outcome := by
  cases leftMeasured with
  | float leftNumber =>
      cases rightMeasured with
      | float rightNumber =>
          exact Option.isSome_iff_exists.mp (Number.isSome_compare?_iff.mpr
            ⟨proper_of_measures (.float leftNumber), proper_of_measures (.float rightNumber)⟩)
  | _ => cases rightMeasured; exact ⟨_, rfl⟩

/-- The values that are there are all measured on one scale. -/
def Homogeneous (values : List FieldValue) : Prop :=
  ∃ scale : Scale, ∀ value ∈ values, value = .missing ∨ scale.Measures value

theorem Homogeneous.filter {α : Type} {items : List α} {field : α → FieldValue}
    (homogeneous : Homogeneous (items.map field)) (keep : α → Bool) :
    Homogeneous ((items.filter keep).map field) := by
  obtain ⟨scale, measured⟩ := homogeneous
  exact ⟨scale, fun value member => measured value ((List.filter_sublist.map field).subset member)⟩

/-- The values that are there are measured on one scale, or they are numbers of which no two are taken for
equal. The float that is not a number is none of them. -/
def Commensurable (values : List FieldValue) : Prop :=
  Homogeneous values ∨
    (∀ value ∈ values, value = .missing ∨ ∃ number, value = .number number ∧ number ≠ .float .nan) ∧
      ∀ left right, .number left ∈ values → .number right ∈ values → ¬ left.RoundedTogether right

/-! ## Being less -/

section

variable {left right middle : FieldValue}

theorem isMissing_iff {value : FieldValue} : value.isMissing = true ↔ value = .missing := by
  cases value <;> simp [isMissing]

theorem isMissing_eq_false_iff {value : FieldValue} : value.isMissing = false ↔ value ≠ .missing := by
  rw [Bool.eq_false_iff, ne_eq, isMissing_iff]

theorem isMissing_eq_false {value : FieldValue} (there : value ≠ .missing) : value.isMissing = false :=
  isMissing_eq_false_iff.mpr there

theorem compare?_swap (left right : FieldValue) :
    left.compare? right = (right.compare? left).map Ordering.swap := by
  cases left with
  | text left => cases right <;> first | rfl | exact congrArg some Std.OrientedOrd.eq_swap
  | number left => cases right <;> first | rfl | exact Number.compare?_swap _ _
  | timestamp left => cases right <;> first | rfl | exact congrArg some Std.OrientedOrd.eq_swap
  | bool left => cases right <;> first | rfl | exact congrArg some Std.OrientedOrd.eq_swap
  | missing => cases right <;> rfl

instance : Std.TransCmp Timestamp.compare :=
  inferInstanceAs (Std.TransCmp (compareOn fun timestamp : Timestamp => timestamp.millis.toInt))

theorem compare?_missing (there : left ≠ .missing) : left.compare? .missing = some .lt := by
  cases left <;> first | rfl | exact absurd rfl there

theorem compare?_lt_trans (first : left.compare? middle = some .lt)
    (second : middle.compare? right = some .lt) : left.compare? right = some .lt := by
  cases middle with
  | missing => cases right <;> cases second
  | text middle =>
      cases left with
      | text left =>
          cases right with
          | text right =>
              exact congrArg some (Std.TransCmp.lt_trans (Option.some.inj first) (Option.some.inj second))
          | missing => rfl
          | _ => cases second
      | _ => cases first
  | number middle =>
      cases left with
      | number left =>
          cases right with
          | number right => exact Number.compare?_lt_trans first second
          | missing => rfl
          | _ => cases second
      | _ => cases first
  | timestamp middle =>
      cases left with
      | timestamp left =>
          cases right with
          | timestamp right =>
              exact congrArg some (Std.TransCmp.lt_trans (Option.some.inj first) (Option.some.inj second))
          | missing => rfl
          | _ => cases second
      | _ => cases first
  | bool middle =>
      cases left with
      | bool left =>
          cases right with
          | bool right =>
              exact congrArg some (Std.TransCmp.lt_trans (Option.some.inj first) (Option.some.inj second))
          | missing => rfl
          | _ => cases second
      | _ => cases first

end

end FieldValue

/-! ## Ties -/

/-- The numbers have one value or are taken for equal, or one of them is the float that is not a number. -/
def Number.Ties (left right : Number) : Prop :=
  left.units? = right.units? ∨ left.RoundedTogether right ∨ left = .float .nan ∨ right = .float .nan

theorem Number.ties_iff {left right : Number} : left.Ties right ↔ (left.compare? right).getD .eq = .eq := by
  by_cases proper : left ≠ .float .nan ∧ right ≠ .float .nan
  · obtain ⟨outcome, compared⟩ := Option.isSome_iff_exists.mp (isSome_compare?_iff.mpr proper)
    have equal : left.compare? right = some .eq ↔ _ := compare?_eq_iff proper.2
    rw [compared, Option.some.injEq] at equal
    rw [compared, Option.getD_some, equal, Ties]
    simp [proper.1, proper.2]
  · have unordered : left.compare? right = none :=
      Option.not_isSome_iff_eq_none.mp (mt isSome_compare?_iff.mp proper)
    rw [unordered, Ties]
    simp only [not_and_or, not_not] at proper
    exact iff_of_true (.inr (.inr proper)) rfl

theorem Number.Ties.units?_eq {left right : Number} (ties : left.Ties right) (leftProper : left ≠ .float .nan)
    (rightProper : right ≠ .float .nan) (apart : ¬ left.RoundedTogether right) : left.units? = right.units? := by
  rcases ties with same | together | notNumber | notNumber
  · exact same
  · exact absurd together apart
  · exact absurd notNumber leftProper
  · exact absurd notNumber rightProper

namespace FieldValue

/-- Neither value comes before the other one: they are the same, they are both there but of different kinds,
or they are numbers that tie. -/
inductive Ties : FieldValue → FieldValue → Prop where
  | same (value : FieldValue) : Ties value value
  | kinds {left right : FieldValue} : left ≠ .missing → right ≠ .missing → left.kindName ≠ right.kindName →
      Ties left right
  | numbers {left right : Number} : left.Ties right → Ties (.number left) (.number right)

/-- The order of two values, where values that cannot be compared are equal. -/
def order (left right : FieldValue) : Ordering :=
  (left.compare? right).getD .eq

section

variable {left right : FieldValue}

theorem order_swap (left right : FieldValue) : left.order right = (right.order left).swap := by
  rw [order, order, compare?_swap left right]
  cases right.compare? left <;> rfl

theorem order_self (value : FieldValue) : value.order value = .eq := by
  have swapped : value.order value = _ := order_swap value value
  cases outcome : value.order value <;> simp [outcome] at swapped ⊢

theorem order_lt_iff : left.order right = .lt ↔ left.compare? right = some .lt := by
  rw [order]
  cases left.compare? right <;> simp

theorem ties_iff : left.Ties right ↔ left.order right = .eq := by
  constructor
  · intro ties
    cases ties with
    | same => exact order_self left
    | kinds leftThere rightThere different =>
        cases left <;> cases right <;>
          first | rfl | exact absurd rfl leftThere | exact absurd rfl rightThere | exact absurd rfl different
    | numbers ties => exact Number.ties_iff.mp ties
  · intro level
    cases left with
    | text left =>
        cases right with
        | text right =>
            obtain rfl : left = right := Std.LawfulEqOrd.eq_of_compare level
            exact .same _
        | missing => cases level
        | _ => exact .kinds nofun nofun (by simp [kindName])
    | number left =>
        cases right with
        | number right => exact .numbers (Number.ties_iff.mpr level)
        | missing => cases level
        | _ => exact .kinds nofun nofun (by simp [kindName])
    | timestamp left =>
        cases right with
        | timestamp right =>
            have same : left.millis = right.millis := Int64.toInt_inj.mp (Int.compare_eq_eq.mp level)
            obtain rfl : left = right := congrArg Timestamp.mk same
            exact .same _
        | missing => cases level
        | _ => exact .kinds nofun nofun (by simp [kindName])
    | bool left =>
        cases right with
        | bool right =>
            obtain rfl : left = right := Std.LawfulEqOrd.eq_of_compare level
            exact .same _
        | missing => cases level
        | _ => exact .kinds nofun nofun (by simp [kindName])
    | missing =>
        cases right with
        | missing => exact .same _
        | _ => cases level

end

theorem Ties.symm {left right : FieldValue} (ties : left.Ties right) : right.Ties left := by
  rw [ties_iff, order_swap, ties_iff.mp ties]
  rfl

/-- No value ties with two others of which one is less than the other. -/
def TiesAgree (values : List FieldValue) : Prop :=
  ∀ low ∈ values, ∀ high ∈ values, low.compare? high = some .lt →
    ∀ value ∈ values, ¬ (value.Ties low ∧ value.Ties high)

theorem TiesAgree.of_subset {values others : List FieldValue} (agree : TiesAgree values)
    (among : others ⊆ values) : TiesAgree others :=
  fun low lowMember high highMember less value member =>
    agree low (among lowMember) high (among highMember) less value (among member)

/-! ## Ties of one value -/

/-- The values are the same, or they are numbers of one value. -/
inductive SameValue : FieldValue → FieldValue → Prop where
  | same (value : FieldValue) : SameValue value value
  | numbers {left right : Number} : left.units? = right.units? → SameValue (.number left) (.number right)

theorem not_less_of_sameValue {value low high : FieldValue} (sameLow : value.SameValue low)
    (sameHigh : value.SameValue high) : low.compare? high ≠ some .lt := by
  intro less
  cases sameLow with
  | same =>
      cases sameHigh with
      | same =>
          have level := order_self value
          rw [order_lt_iff.mpr less] at level
          cases level
      | numbers equal => exact Number.units?_ne_of_compare?_lt less equal
  | numbers equal =>
      cases sameHigh with
      | same => exact Number.units?_ne_of_compare?_lt less equal.symm
      | numbers equal' => exact Number.units?_ne_of_compare?_lt less (equal.symm.trans equal')

theorem sameValue_of_measures {scale : Scale} {left right : FieldValue} (leftMeasured : scale.Measures left)
    (rightMeasured : scale.Measures right) (ties : left.Ties right) : left.SameValue right := by
  cases ties with
  | same => exact .same left
  | kinds _ _ different =>
      refine absurd ?_ different
      cases leftMeasured <;> cases rightMeasured <;> rfl
  | @numbers left right ties =>
      have same : left.SameKind right := by cases leftMeasured <;> cases rightMeasured <;> trivial
      exact .numbers (ties.units?_eq (proper_of_measures leftMeasured) (proper_of_measures rightMeasured)
        (Number.not_roundedTogether_of_sameKind same))

/-- Among commensurable values only what is of one value ties. -/
theorem Commensurable.sameValue_of_ties {values : List FieldValue} (commensurable : Commensurable values)
    {left right : FieldValue} (leftMember : left ∈ values) (rightMember : right ∈ values)
    (ties : left.Ties right) : left.SameValue right := by
  have sound (leftThere : left ≠ .missing) (rightThere : right ≠ .missing) : left.SameValue right := by
    rcases commensurable with ⟨scale, measured⟩ | ⟨numbers, apart⟩
    · exact sameValue_of_measures ((measured left leftMember).resolve_left leftThere)
        ((measured right rightMember).resolve_left rightThere) ties
    · obtain ⟨leftNumber, rfl, leftProper⟩ := (numbers left leftMember).resolve_left leftThere
      obtain ⟨rightNumber, rfl, rightProper⟩ := (numbers right rightMember).resolve_left rightThere
      have level : leftNumber.Ties rightNumber := Number.ties_iff.mpr (ties_iff.mp ties)
      exact .numbers (level.units?_eq leftProper rightProper (apart _ _ leftMember rightMember))
  cases ties with
  | same => exact .same left
  | kinds leftThere rightThere => exact sound leftThere rightThere
  | numbers => exact sound nofun nofun

theorem Commensurable.tiesAgree {values : List FieldValue} (commensurable : Commensurable values) :
    TiesAgree values := by
  intro low lowMember high highMember less value member ⟨tiesLow, tiesHigh⟩
  exact not_less_of_sameValue (commensurable.sameValue_of_ties member lowMember tiesLow)
    (commensurable.sameValue_of_ties member highMember tiesHigh) less

theorem Homogeneous.tiesAgree {values : List FieldValue} (homogeneous : Homogeneous values) :
    TiesAgree values :=
  Commensurable.tiesAgree (.inl homogeneous)

end FieldValue

end PipeQuery
