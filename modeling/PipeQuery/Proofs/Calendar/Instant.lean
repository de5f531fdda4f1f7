import PipeQuery.Calendar.Literal
import PipeQuery.Proofs.Calendar.Date
import PipeQuery.Proofs.Text.Digits

/-!
# Texts of instants read back

An instant within the years of four digits is read back from its display text, in a leap second too if
it ends a minute. Each field is written with its full width, so the reader takes exactly what was written.
-/

set_option autoImplicit false

namespace PipeQuery

open Text Calendar

/-- An instant with a year of four digits that is in no leap second. -/
structure Instant.WellFormed (instant : Instant) : Prop where
  early : 0 ≤ (Date.ofDayNumber (instant.seconds / Instant.daySeconds)).year
  late : (Date.ofDayNumber (instant.seconds / Instant.daySeconds)).year ≤ 9999
  whole : instant.nanos < Instant.nanosPerSecond

/-- A leap second lasts no longer than a second and is the last one of its minute. -/
structure Instant.Regular (instant : Instant) : Prop where
  bounded : instant.nanos < 2 * Instant.nanosPerSecond
  ending : Instant.nanosPerSecond ≤ instant.nanos → instant.seconds % 60 = 59

/-- The year has four digits. -/
def Instant.InFourDigitYear (instant : Instant) : Prop :=
  0 ≤ (Date.ofDayNumber (instant.seconds / Instant.daySeconds)).year ∧
    (Date.ofDayNumber (instant.seconds / Instant.daySeconds)).year ≤ 9999

/-- An instant whose text is read back. -/
structure Instant.Legible (instant : Instant) : Prop where
  year : instant.InFourDigitYear
  regular : instant.Regular

theorem Instant.WellFormed.legible {instant : Instant} (wellFormed : instant.WellFormed) :
    instant.Legible := by
  have whole := wellFormed.whole
  exact ⟨⟨wellFormed.early, wellFormed.late⟩, by omega, by omega⟩

/-! ## Fields -/

theorem Calendar.takeNumber_paddedDigits {width value : Nat} (positive : 0 < width)
    (fits : value < 10 ^ width) (rest : List Char) :
    takeNumber width width (paddedDigits width value ++ rest) = some (value, rest) := by
  have length := length_paddedDigits positive fits
  have field : (paddedDigits width value ++ rest).take width = paddedDigits width value :=
    List.take_left' length
  have digits : (paddedDigits width value).takeWhile isDigit = paddedDigits width value := by
    simpa using takeWhile_digits [] (fun c => isDigit_of_mem_paddedDigits) (by simp)
  simp only [takeNumber, field, digits, length, Nat.lt_irrefl, ↓reduceIte, List.drop_left' length,
    natOfDigits_paddedDigits]

theorem Calendar.takeTwoDigits_paddedDigits {value : Nat} (fits : value < 100) (rest : List Char) :
    takeTwoDigits (paddedDigits 2 value ++ rest) = some (value, rest) :=
  takeNumber_paddedDigits (by decide) fits rest

theorem Calendar.takeChar_cons (c : Char) (rest : List Char) :
    takeChar c (c :: rest) = some rest := by
  simp [takeChar]

theorem Calendar.takeNanos_paddedDigits {width value : Nat} (positive : 0 < width) (short : width ≤ 9)
    (fits : value < 10 ^ width) (rest : List Char) (ends : ∀ c ∈ rest.head?, isDigit c = false) :
    takeNanos (paddedDigits width value ++ rest) = some (value * 10 ^ (9 - width), rest) := by
  have length := length_paddedDigits positive fits
  have digits : (paddedDigits width value ++ rest).takeWhile isDigit = paddedDigits width value :=
    takeWhile_digits rest (fun c member => isDigit_of_mem_paddedDigits member) ends
  have kept : (paddedDigits width value).take 9 = paddedDigits width value :=
    List.take_of_length_le (by omega)
  have nonempty : (paddedDigits width value).isEmpty = false := by
    rw [List.isEmpty_eq_false_iff]
    exact List.ne_nil_of_length_pos (by omega)
  simp only [takeNanos, digits, kept, nonempty, length, natOfDigits_paddedDigits, List.drop_left' length,
    Bool.false_eq_true, ↓reduceIte]

theorem Calendar.takeFraction_fractionText {nanos : Nat} (whole : nanos < Instant.nanosPerSecond) :
    takeFraction (Instant.fractionText nanos ++ ['Z']) = some (nanos, ['Z']) := by
  have ends : ∀ c ∈ (['Z'] : List Char).head?, isDigit c = false := by
    rintro c ⟨⟩
    rfl
  simp only [Instant.nanosPerSecond] at whole
  unfold Instant.fractionText
  split
  · next none? => rw [none?]; rfl
  split
  · next millis =>
      rw [List.cons_append, takeFraction, takeNanos_paddedDigits (by decide) (by decide) (by omega) _ ends]
      congr 2
      omega
  split
  · next micros =>
      rw [List.cons_append, takeFraction, takeNanos_paddedDigits (by decide) (by decide) (by omega) _ ends]
      congr 2
      omega
  · rw [List.cons_append, takeFraction, takeNanos_paddedDigits (by decide) (by decide) whole _ ends]
    simp

/-! ## Time stamps -/

/-- The time stamp with the given fields. -/
def Calendar.stamp (year month day hour minute second nanos : Nat) : List Char :=
  paddedDigits 4 year ++ '-' :: (paddedDigits 2 month ++ '-' :: (paddedDigits 2 day ++
    'T' :: (paddedDigits 2 hour ++ ':' :: (paddedDigits 2 minute ++ ':' :: (paddedDigits 2 second ++
      (Instant.fractionText nanos ++ ['Z']))))))

theorem Calendar.timestamp?_stamp {year month day hour minute second nanos : Nat} (fourDigits : year < 10000)
    (months : month < 100) (days : day < 100) (hours : hour < 100) (minutes : minute < 100)
    (seconds : second < 100) (whole : nanos < Instant.nanosPerSecond) :
    timestamp? (stamp year month day hour minute second nanos) =
      Instant.ofWritten? ⟨year, month, day, hour, minute, second, nanos, 0⟩ := by
  have zone : takeColonZone ['Z'] = some (0, []) := rfl
  rw [timestamp?, stamp, takeNumber_paddedDigits (by decide) fourDigits]
  dsimp only [Option.bind_eq_bind, Option.bind_some]
  rw [takeChar_cons, Option.bind_some, takeTwoDigits_paddedDigits months]
  dsimp only [Option.bind_some]
  rw [takeChar_cons, Option.bind_some, takeTwoDigits_paddedDigits days]
  dsimp only [Option.bind_some]
  rw [takeChar_cons, Option.some_or, Option.bind_some, takeTwoDigits_paddedDigits hours]
  dsimp only [Option.bind_some]
  rw [takeChar_cons, Option.bind_some, takeTwoDigits_paddedDigits minutes]
  dsimp only [Option.bind_some]
  rw [takeChar_cons, Option.bind_some, takeTwoDigits_paddedDigits seconds]
  dsimp only [Option.bind_some]
  rw [takeFraction_fractionText whole]
  dsimp only [Option.bind_some]
  rw [zone]
  rfl

/-- Whether the instant lies in a leap second, as a number of seconds. -/
def Instant.leap (instant : Instant) : Nat :=
  if nanosPerSecond ≤ instant.nanos then 1 else 0

/-- The second that is written is at most sixty, and it is sixty if and only if the nanoseconds that are
written lack a whole second. -/
theorem Instant.Regular.written {instant : Instant} (regular : instant.Regular) :
    let second := (instant.seconds % daySeconds).toNat % 60
    let nanos := instant.nanos - instant.leap * nanosPerSecond
    second + instant.leap ≤ 60 ∧ nanos < nanosPerSecond ∧ min (second + instant.leap) 59 = second ∧
      nanos + (if second + instant.leap = 60 then nanosPerSecond else 0) = instant.nanos := by
  have bounded := regular.bounded
  by_cases beyond : nanosPerSecond ≤ instant.nanos
  · have last : (instant.seconds % daySeconds).toNat % 60 = 59 := by
      have ending := regular.ending beyond
      simp only [daySeconds]
      omega
    simp only [leap, if_pos beyond, last, Nat.reduceAdd, if_true]
    omega
  · have within : (instant.seconds % daySeconds).toNat % 60 < 60 := Nat.mod_lt _ (by decide)
    simp only [leap, if_neg beyond]
    rw [if_neg (by omega)]
    omega

theorem Instant.text_eq_stamp {instant : Instant} (year : instant.InFourDigitYear) :
    instant.text =
      stamp (Date.ofDayNumber (instant.seconds / daySeconds)).year.natAbs
        (Date.ofDayNumber (instant.seconds / daySeconds)).month
        (Date.ofDayNumber (instant.seconds / daySeconds)).day
        ((instant.seconds % daySeconds).toNat / 3600) ((instant.seconds % daySeconds).toNat / 60 % 60)
        ((instant.seconds % daySeconds).toNat % 60 + instant.leap)
        (instant.nanos - instant.leap * nanosPerSecond) := by
  simp [text, stamp, yearText, leap, year.1, year.2]

theorem Instant.ofWritten?_of_date {year : Int} {month day hour minute second nanos : Nat} {date : Date}
    (found : Date.ofFields? year month day = some date) (kept : Date.isKept date.dayNumber = true)
    (hours : hour < 24) (minutes : minute < 60) (seconds : second ≤ 60)
    (whole : nanos < nanosPerSecond) :
    ofWritten? ⟨year, month, day, hour, minute, second, nanos, 0⟩ =
      some ⟨date.dayNumber * daySeconds + (hour * 3600 + minute * 60 + min second 59 : Nat),
        nanos + if second = 60 then nanosPerSecond else 0⟩ := by
  have day : (date.dayNumber * daySeconds + (hour * 3600 + minute * 60 + min second 59 : Nat)) / daySeconds =
      date.dayNumber := by
    simp only [daySeconds]
    omega
  have inRange : (decide (hour ≤ 23) && decide (minute ≤ 59) && decide (second ≤ 60)
      && decide (nanos < nanosPerSecond) && decide ((0 : Int).natAbs < daySeconds.natAbs)) = true := by
    simp only [Bool.and_eq_true, decide_eq_true_eq]
    exact ⟨⟨⟨⟨by omega, by omega⟩, seconds⟩, whole⟩, by decide⟩
  have timeOfDay : date.dayNumber * daySeconds +
      ((hour : Int) * 3600 + minute * 60 + (min second 59 : Nat)) - 0 =
      date.dayNumber * daySeconds + (hour * 3600 + minute * 60 + min second 59 : Nat) := by
    push_cast
    omega
  simp only [ofWritten?, found, Option.bind_eq_bind, Option.bind_some, timeOfDay, day, kept, inRange,
    Bool.and_self, if_true]

theorem Instant.ofWritten?_fields {instant : Instant} (legible : instant.Legible) :
    ofWritten? ⟨(Date.ofDayNumber (instant.seconds / daySeconds)).year.natAbs,
        (Date.ofDayNumber (instant.seconds / daySeconds)).month,
        (Date.ofDayNumber (instant.seconds / daySeconds)).day,
        (instant.seconds % daySeconds).toNat / 3600, (instant.seconds % daySeconds).toNat / 60 % 60,
        (instant.seconds % daySeconds).toNat % 60 + instant.leap,
        instant.nanos - instant.leap * nanosPerSecond, 0⟩ = some instant := by
  obtain ⟨⟨early, late⟩, regular⟩ := legible
  have year : ((Date.ofDayNumber (instant.seconds / daySeconds)).year.natAbs : Int) =
      (Date.ofDayNumber (instant.seconds / daySeconds)).year := by omega
  have date := Date.ofFields?_ofDayNumber (instant.seconds / daySeconds)
    (by simp only [Date.firstYear]; omega) (by simp only [Date.lastYear]; omega)
  have kept := Date.isKept_of_year (instant.seconds / daySeconds)
    (by simp only [Date.firstYear]; omega) (by simp only [Date.lastYear]; omega)
  have number := Date.dayNumber_ofDayNumber (instant.seconds / daySeconds)
  rw [← year] at date
  obtain ⟨second, nanos, clipped, added⟩ := regular.written
  rw [ofWritten?_of_date date (by rw [number]; exact kept) (by simp only [daySeconds]; omega) (by omega)
    second nanos, number]
  have seconds : instant.seconds / daySeconds * daySeconds +
      ((instant.seconds % daySeconds).toNat / 3600 * 3600 +
        (instant.seconds % daySeconds).toNat / 60 % 60 * 60 +
        (instant.seconds % daySeconds).toNat % 60 : Nat) = instant.seconds := by
    simp only [daySeconds]
    omega
  rw [clipped, seconds, added]

/-- The display text of an instant is a time stamp that denotes it. -/
theorem Calendar.timestamp?_text {instant : Instant} (legible : instant.Legible) :
    timestamp? instant.text = some instant := by
  obtain ⟨early, late⟩ := legible.year
  have month := Date.ofDayNumber_month (instant.seconds / Instant.daySeconds)
  have day := Date.ofDayNumber_day (instant.seconds / Instant.daySeconds)
  have inDay : (instant.seconds % Instant.daySeconds).toNat < 86400 := by
    simp only [Instant.daySeconds]
    omega
  obtain ⟨second, nanos, -, -⟩ := legible.regular.written
  rw [Instant.text_eq_stamp legible.year,
    timestamp?_stamp (by omega) (by omega) (by omega) (by omega) (by omega) (by omega) nanos,
    Instant.ofWritten?_fields legible]

end PipeQuery
