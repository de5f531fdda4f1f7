import PipeQuery.Proofs.Calendar.Instant

/-!
# Leap seconds of literals

Offsets from UTC are whole minutes, so a second sixty ends a minute in UTC too. Every instant that a
date literal denotes is regular.
-/

set_option autoImplicit false

namespace PipeQuery

theorem Instant.regular_of_ofWritten? {written : WrittenTime} {instant : Instant}
    (minutes : 60 ∣ written.offset) (found : ofWritten? written = some instant) : instant.Regular := by
  obtain ⟨date, _, kept⟩ := Option.bind_eq_some_iff.mp found
  obtain ⟨ranges, same⟩ := Option.ite_none_right_eq_some.mp kept
  simp only [Bool.and_eq_true, decide_eq_true_eq] at ranges
  cases same
  constructor
  · dsimp only
    split <;> omega
  · intro beyond
    have leap : written.second = 60 := by
      by_contra usual
      simp only [if_neg usual] at beyond
      omega
    simp only [leap, daySeconds]
    omega

namespace Calendar

/-! ## Offsets -/

theorem dvd_of_offsetSeconds? {negative : Bool} {hours minutes : Nat} {offset : Int}
    (found : offsetSeconds? negative hours minutes = some offset) : 60 ∣ offset := by
  obtain ⟨_, same⟩ := Option.ite_none_right_eq_some.mp found
  cases same
  split <;> omega

theorem dvd_of_takeColonZone {text rest : List Char} {offset : Int}
    (found : takeColonZone text = some (offset, rest)) : 60 ∣ offset := by
  unfold takeColonZone at found
  split at found
  · cases found
    exact Int.dvd_zero 60
  · cases found
    exact Int.dvd_zero 60
  · simp only [Option.bind_eq_bind, Option.bind_eq_some_iff] at found
    obtain ⟨_, _, _, _, _, _, _, _, _, whole, same⟩ := found
    cases same
    exact dvd_of_offsetSeconds? whole

theorem dvd_of_takeMailZone {text rest : List Char} {offset : Int}
    (found : takeMailZone text = some (offset, rest)) : 60 ∣ offset := by
  unfold takeMailZone at found
  dsimp only at found
  split at found
  · simp only [Option.bind_eq_bind, Option.bind_eq_some_iff] at found
    obtain ⟨_, _, _, _, _, _, _, whole, same⟩ := found
    cases same
    exact dvd_of_offsetSeconds? whole
  · obtain ⟨hours, _, same⟩ := Option.map_eq_some_iff.mp found
    cases same
    omega

/-! ## Literals -/

/-- The instant is regular, if there is one. -/
def FindsRegular (found : Option Instant) : Prop :=
  ∀ instant, found = some instant → instant.Regular

theorem FindsRegular.bind {α : Type} {part : Option α} {next : α → Option Instant}
    (each : ∀ value, part = some value → FindsRegular (next value)) : FindsRegular (part.bind next) := by
  intro instant found
  obtain ⟨value, taken, found⟩ := Option.bind_eq_some_iff.mp found
  exact each value taken instant found

theorem FindsRegular.ite {condition : Prop} [Decidable condition] {found : Option Instant}
    (regular : FindsRegular found) : FindsRegular (if condition then found else none) :=
  fun instant kept => regular instant (Option.ite_none_right_eq_some.mp kept).2

theorem FindsRegular.or {first second : Option Instant} (left : FindsRegular first)
    (right : FindsRegular second) : FindsRegular (first.or second) := by
  intro instant found
  rcases Option.or_eq_some_iff.mp found with found | ⟨_, found⟩
  · exact left instant found
  · exact right instant found

theorem FindsRegular.ofWritten? {written : WrittenTime} (minutes : 60 ∣ written.offset) :
    FindsRegular (Instant.ofWritten? written) :=
  fun _ found => Instant.regular_of_ofWritten? minutes found

section Literals

variable (text : List Char)

theorem findsRegular_timestamp? : FindsRegular (timestamp? text) := by
  unfold timestamp?
  -- Twelve fields and separators stand in front of the zone.
  iterate 12 refine .bind fun _ _ => ?_
  exact .bind fun _ zone => .ite (.ofWritten? (dvd_of_takeColonZone zone))

theorem findsRegular_mailDate? : FindsRegular (mailDate? text) := by
  unfold mailDate?
  iterate 12 refine .bind fun _ _ => ?_
  exact .bind fun _ zone => .bind fun _ _ => .ite (.ofWritten? (dvd_of_takeMailZone zone))

theorem findsRegular_plainDateTime? (takeSeparator : List Char → Option (List Char)) (withSeconds : Bool) :
    FindsRegular (plainDateTime? takeSeparator withSeconds text) := by
  cases withSeconds with
  | false =>
      simp only [plainDateTime?, Bool.false_eq_true, if_false]
      iterate 6 refine .bind fun _ _ => ?_
      exact .ite (.ofWritten? (Int.dvd_zero 60))
  | true =>
      simp only [plainDateTime?, if_true]
      iterate 9 refine .bind fun _ _ => ?_
      exact .ite (.ofWritten? (Int.dvd_zero 60))

theorem findsRegular_plainDate? : FindsRegular (plainDate? text) := by
  unfold plainDate?
  exact .bind fun _ _ => .ite (.ofWritten? (Int.dvd_zero 60))

theorem findsRegular_ofLiteral? : FindsRegular (ofLiteral? text) := by
  have zoneless : FindsRegular (zonelessDateTime? (Text.trim text)) :=
    .or (findsRegular_plainDateTime? _ _ _) <| .or (findsRegular_plainDateTime? _ _ _) <|
      .or (findsRegular_plainDateTime? _ _ _) (findsRegular_plainDateTime? _ _ _)
  exact .or (findsRegular_timestamp? _) <| .or (findsRegular_mailDate? _) <|
    .or zoneless (findsRegular_plainDate? _)

end Literals

end Calendar

end PipeQuery
