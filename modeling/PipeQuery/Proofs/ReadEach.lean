/-!
# Reading step by step

What is read in several steps fails with the first step that fails. A list is read by reading its items
in order, up to the first that cannot be read.
-/

set_option autoImplicit false

namespace PipeQuery

/-! ## One step after another -/

theorem bind_eq_error_iff {α β ε : Type} {first : Except ε α} {next : α → Except ε β} {cause : ε} :
    first >>= next = .error cause ↔
      first = .error cause ∨ ∃ value, first = .ok value ∧ next value = .error cause := by
  cases first <;> simp [bind, Except.bind]

theorem bind_eq_ok_iff {α β ε : Type} {first : Except ε α} {next : α → Except ε β} {result : β} :
    first >>= next = .ok result ↔ ∃ value, first = .ok value ∧ next value = .ok result := by
  cases first <;> simp [bind, Except.bind]

theorem map_eq_error_iff {α β ε : Type} {computed : Except ε α} {change : α → β} {cause : ε} :
    computed.map change = .error cause ↔ computed = .error cause := by
  cases computed <;> simp [Except.map]

theorem map_eq_ok_iff {α β ε : Type} {computed : Except ε α} {change : α → β} {result : β} :
    computed.map change = .ok result ↔ ∃ value, computed = .ok value ∧ change value = result := by
  cases computed <;> simp [Except.map]

/-! ## One item after another -/

theorem mapM_error_iff {α β ε : Type} {read : α → Except ε β} {items : List α} :
    (∃ error, items.mapM read = .error error) ↔ ∃ item ∈ items, ∃ error, read item = .error error := by
  induction items with
  | nil => simp [pure, Except.pure]
  | cons first items ih =>
      rw [List.mapM_cons]
      cases head : read first with
      | error error => simp [head, bind, Except.bind]
      | ok result =>
          simp only [List.mem_cons, exists_eq_or_imp, head, reduceCtorEq, exists_false, false_or, ← ih]
          cases items.mapM read <;> simp [bind, Except.bind, pure, Except.pure]

/-- Reading all items fails as reading the first of them does that cannot be read. -/
theorem mapM_eq_error_iff {α β ε : Type} {read : α → Except ε β} {items : List α} {error : ε} :
    items.mapM read = .error error ↔ ∃ before item after, items = before ++ item :: after ∧
      (∀ other ∈ before, ∃ result, read other = .ok result) ∧ read item = .error error := by
  constructor
  · intro failed
    induction items with
    | nil => cases failed
    | cons first items ih =>
        rw [List.mapM_cons] at failed
        cases head : read first with
        | error found =>
            simp only [head, bind, Except.bind, Except.error.injEq] at failed
            subst failed
            exact ⟨[], first, items, rfl, by simp, head⟩
        | ok result =>
            cases others : items.mapM read with
            | ok results => simp [head, others, bind, Except.bind, pure, Except.pure] at failed
            | error found =>
                simp only [head, others, bind, Except.bind, Except.error.injEq] at failed
                subst failed
                obtain ⟨before, item, after, rfl, earlier, unread⟩ := ih others
                refine ⟨first :: before, item, after, rfl, ?_, unread⟩
                exact List.forall_mem_cons.mpr ⟨⟨result, head⟩, earlier⟩
  · rintro ⟨before, item, after, rfl, earlier, unread⟩
    induction before with
    | nil => simp [List.mapM_cons, unread, bind, Except.bind]
    | cons first before ih =>
        obtain ⟨⟨result, head⟩, earlier⟩ := List.forall_mem_cons.mp earlier
        have others := ih earlier
        rw [List.cons_append, List.mapM_cons, head, others]
        rfl

theorem exists_ok_of_mapM_ok {α β ε : Type} {read : α → Except ε β} {items : List α} {results : List β}
    (all : items.mapM read = .ok results) {item : α} (member : item ∈ items) :
    ∃ result, read item = .ok result := by
  cases alone : read item with
  | ok result => exact ⟨result, rfl⟩
  | error error =>
      obtain ⟨failure, failed⟩ := mapM_error_iff.mpr ⟨item, member, error, alone⟩
      rw [all] at failed
      cases failed

theorem exists_mapM_ok_iff {α β ε : Type} {read : α → Except ε β} {items : List α} :
    (∃ results, items.mapM read = .ok results) ↔ ∀ item ∈ items, ∃ result, read item = .ok result := by
  constructor
  · rintro ⟨results, all⟩ item member
    exact exists_ok_of_mapM_ok all member
  · intro each
    cases all : items.mapM read with
    | ok results => exact ⟨results, rfl⟩
    | error error =>
        obtain ⟨item, member, failure, failed⟩ := mapM_error_iff.mp ⟨error, all⟩
        obtain ⟨result, found⟩ := each item member
        cases failed.symm.trans found

theorem mapM_cons_eq_ok_iff {α β ε : Type} {read : α → Except ε β} {item : α} {items : List α}
    {results : List β} :
    (item :: items).mapM read = .ok results ↔
      ∃ result others, read item = .ok result ∧ items.mapM read = .ok others ∧
        results = result :: others := by
  rw [List.mapM_cons]
  cases read item with
  | error error => simp [bind, Except.bind]
  | ok result => cases items.mapM read <;> simp [bind, Except.bind, pure, Except.pure, eq_comm]

theorem mapM_cons_ok {α β ε : Type} {read : α → Except ε β} {item : α} {items : List α} {result : β}
    {results : List β} (first : read item = .ok result) (others : items.mapM read = .ok results) :
    (item :: items).mapM read = .ok (result :: results) :=
  mapM_cons_eq_ok_iff.mpr ⟨result, results, first, others, rfl⟩

theorem mem_iff_of_mapM_ok {α β ε : Type} {read : α → Except ε β} {items : List α} {results : List β}
    (all : items.mapM read = .ok results) {result : β} :
    result ∈ results ↔ ∃ item ∈ items, read item = .ok result := by
  induction items generalizing results with
  | nil =>
      cases all
      simp
  | cons first items ih =>
      obtain ⟨alone, later, head, others, rfl⟩ := mapM_cons_eq_ok_iff.mp all
      simp only [List.mem_cons, exists_eq_or_imp, head, Except.ok.injEq, ih others, @eq_comm _ result]

theorem exists_of_mem_mapM_ok {α β ε : Type} {read : α → Except ε β} {items : List α} {results : List β}
    (all : items.mapM read = .ok results) {result : β} (member : result ∈ results) :
    ∃ item ∈ items, read item = .ok result :=
  (mem_iff_of_mapM_ok all).mp member

theorem mapM_map_ok {α β γ ε : Type} {write : γ → α} {read : α → Except ε β} {result : γ → β} {items : List γ}
    (each : ∀ item ∈ items, read (write item) = .ok (result item)) :
    (items.map write).mapM read = .ok (items.map result) := by
  induction items with
  | nil => rfl
  | cons item items ih =>
      exact mapM_cons_ok (each item List.mem_cons_self) (ih fun other member =>
        each other (List.mem_cons_of_mem _ member))

/-- What reads back one by one reads back as a list. -/
theorem mapM_read_back {α β ε : Type} {write : α → β} {read : β → Except ε α} {items : List α}
    (each : ∀ item ∈ items, read (write item) = .ok item) : (items.map write).mapM read = .ok items := by
  have all : (items.map write).mapM read = .ok (items.map id) := mapM_map_ok each
  rwa [List.map_id] at all

theorem mapM_congr {α β ε : Type} {read other : α → Except ε β} {items : List α}
    (same : ∀ item ∈ items, read item = other item) : items.mapM read = items.mapM other := by
  induction items with
  | nil => rfl
  | cons item items ih =>
      obtain ⟨first, others⟩ := List.forall_mem_cons.mp same
      rw [List.mapM_cons, List.mapM_cons, first, ih others]

end PipeQuery
