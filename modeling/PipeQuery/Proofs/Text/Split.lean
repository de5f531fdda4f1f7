import PipeQuery.Proofs.Text.Scan
import PipeQuery.Text.Split

/-!
# Splitting of texts in a row

The pieces of two texts one after the other are the pieces of both, with the last of the first and the
first of the second glued together. Where a separator stands between them and the scan has settled
before it, nothing is glued.
-/

set_option autoImplicit false

namespace PipeQuery.Text

/-- Two lists of pieces in a row, with the last of the first and the first of the second made one. -/
def gluePieces : List (List Char) → List (List Char) → List (List Char)
  | [], after => after
  | [piece], [] => [piece]
  | [piece], next :: after => (piece ++ next) :: after
  | piece :: next :: before, after => piece :: gluePieces (next :: before) after

theorem gluePieces_cons {piece : List Char} {before after : List (List Char)} (nonempty : before ≠ []) :
    gluePieces (piece :: before) after = piece :: gluePieces before after := by
  cases before with
  | nil => exact absurd rfl nonempty
  | cons next before => rfl

theorem gluePieces_cons_cons {c : Char} {piece : List Char} {before after : List (List Char)} :
    gluePieces ((c :: piece) :: before) after =
      match gluePieces (piece :: before) after with
      | [] => [[c]]
      | first :: rest => (c :: first) :: rest := by
  cases before with
  | nil => cases after <;> rfl
  | cons next before => rfl

theorem gluePieces_nil_cons {before after : List (List Char)} (nonempty : before ≠ []) :
    gluePieces before ([] :: after) = before ++ after := by
  induction before with
  | nil => exact absurd rfl nonempty
  | cons piece before ih =>
      cases before with
      | nil => simp [gluePieces]
      | cons next before => rw [gluePieces_cons (by simp), ih (by simp)]; rfl

theorem cut_append (separator : Char) (scan : Scan) (left right : List Char) :
    cut separator scan (left ++ right) =
      gluePieces (cut separator scan left) (cut separator (scan.walk left) right) := by
  induction left generalizing scan with
  | nil =>
      simp only [List.nil_append, cut, Scan.walk_nil]
      cases found : cut separator scan right with
      | nil => exact absurd found (cut_ne_nil _ _ _)
      | cons piece pieces => rfl
  | cons c left ih =>
      simp only [List.cons_append, cut, Scan.walk_cons]
      rw [ih]
      split
      · rw [gluePieces_cons (cut_ne_nil _ _ _)]
      · cases found : cut separator (scan.step c) left with
        | nil => exact absurd found (cut_ne_nil _ _ _)
        | cons piece pieces =>
            exact gluePieces_cons_cons.symm

/-- A text in which the scan meets no separator in a settled state is one piece. -/
theorem cut_eq_singleton_of_not_mem {separator : Char} {scan : Scan} {text : List Char}
    (absent : separator ∉ text) : cut separator scan text = [text] := by
  induction text generalizing scan with
  | nil => rfl
  | cons c text ih =>
      simp only [List.mem_cons, not_or] at absent
      have different : (c == separator) = false := beq_eq_false_iff_ne.mpr (Ne.symm absent.1)
      simp [cut, different, ih absent.2]

theorem cut_append_separator {separator : Char} {scan : Scan} {left : List Char} (right : List Char)
    (settled : scan.walk left = .start) (ordinary : isOrdinary separator = true) :
    cut separator scan (left ++ separator :: right) =
      cut separator scan left ++ cut separator .start right := by
  rw [cut_append, settled]
  simp only [cut, beq_self_eq_true, Scan.settled_start, Bool.and_self, ↓reduceIte,
    Scan.step_ordinary ordinary (show Scan.start.escaped = false from rfl)]
  exact gluePieces_nil_cons (cut_ne_nil _ _ _)

/-! ## The first piece -/

/-- Either no separator of the text is met in a settled state, or the first piece ends at such a
separator and the others are the pieces of what follows it. -/
theorem cut_cases {separator : Char} (ordinary : isOrdinary separator = true) (scan : Scan)
    (text : List Char) :
    cut separator scan text = [text] ∨
      ∃ first rest, text = first ++ separator :: rest ∧ scan.walk first = .start ∧
        cut separator scan text = first :: cut separator .start rest := by
  induction text generalizing scan with
  | nil => exact .inl rfl
  | cons c text ih =>
      by_cases ends : (c == separator && scan.settled) = true
      · rw [Bool.and_eq_true, beq_iff_eq] at ends
        obtain ⟨rfl, settled⟩ := ends
        obtain rfl := Scan.settled_iff.mp settled
        refine .inr ⟨[], text, rfl, rfl, ?_⟩
        simp [cut, Scan.step_ordinary ordinary (show Scan.start.escaped = false from rfl)]
      · simp only [cut, ends, Bool.false_eq_true, ↓reduceIte]
        rcases ih (scan.step c) with whole | ⟨first, rest, rfl, settled, pieces⟩
        · exact .inl (by rw [whole])
        · exact .inr ⟨c :: first, rest, rfl, settled, by rw [pieces]⟩

theorem walk_eq_start_of_pieces {separator : Char} (ordinary : isOrdinary separator = true)
    {text : List Char}
    (settled : ∀ piece ∈ cut separator .start text, Scan.start.walk piece = .start) :
    Scan.start.walk text = .start := by
  -- The induction is on the length, since the first piece takes an unknown part of the text away.
  induction length : text.length using Nat.strong_induction_on generalizing text with
  | _ bound ih =>
      rcases cut_cases ordinary .start text with whole | ⟨first, rest, rfl, firstSettled, pieces⟩
      · exact settled text (by simp [whole])
      · have later : Scan.start.walk rest = .start := by
          apply ih rest.length (by rw [← length]; simp; omega) _ rfl
          intro piece member
          exact settled piece (by rw [pieces]; exact List.mem_cons_of_mem _ member)
        rw [Scan.walk_append, firstSettled, Scan.walk_cons, Scan.step_ordinary ordinary rfl, later]

/-! ## Blanks around the text and between texts -/

theorem map_trim_gluePieces_blank {pieces : List (List Char)} {blanks : List Char}
    (blank : AllBlank blanks) (nonempty : pieces ≠ []) :
    (gluePieces pieces [blanks]).map trim = pieces.map trim := by
  induction pieces with
  | nil => exact absurd rfl nonempty
  | cons piece pieces ih =>
      cases pieces with
      | nil => simp [gluePieces, trim_append_blank blank]
      | cons next pieces => simp only [gluePieces, List.map_cons] at ih ⊢; rw [ih (by simp)]

theorem cut_blank {separator : Char} (unblank : isBlank separator = false) {scan : Scan}
    {blanks : List Char} (blank : AllBlank blanks) : cut separator scan blanks = [blanks] := by
  apply cut_eq_singleton_of_not_mem
  intro member
  rw [blank separator member] at unblank
  cases unblank

theorem split_append_blank {separator : Char} (unblank : isBlank separator = false)
    {blanks : List Char} (blank : AllBlank blanks) (text : List Char) :
    split separator (text ++ blanks) = split separator text := by
  rw [split, cut_append, cut_blank unblank blank, map_trim_gluePieces_blank blank (cut_ne_nil _ _ _),
    split]

theorem split_blank_append {separator : Char} (unblank : isBlank separator = false)
    {blanks : List Char} (blank : AllBlank blanks) (text : List Char) :
    split separator (blanks ++ text) = split separator text := by
  rw [split, cut_append, cut_blank unblank blank, Scan.walk_blank blank, split]
  cases found : cut separator .start text with
  | nil => exact absurd found (cut_ne_nil _ _ _)
  | cons piece pieces => simp [gluePieces, trim_blank_append blank]

theorem split_append_separator {separator : Char} (ordinary : isOrdinary separator = true)
    {left : List Char} (settled : Scan.start.walk left = .start) (right : List Char) :
    split separator (left ++ separator :: right) = split separator left ++ split separator right := by
  simp only [split, cut_append_separator right settled ordinary, List.map_append, List.filter_append]

/-! ## What the pieces that are kept say about the text -/

theorem trimmed_of_mem_split {separator : Char} {text piece : List Char}
    (member : piece ∈ split separator text) : Trimmed piece ∧ piece ≠ [] := by
  obtain ⟨mapped, nonempty⟩ := List.mem_filter.mp member
  obtain ⟨raw, _, rfl⟩ := List.mem_map.mp mapped
  exact ⟨trimmed_trim raw, by simpa using nonempty⟩

theorem trim_eq_of_mem_split {separator : Char} {text piece : List Char}
    (member : piece ∈ split separator text) : trim piece = piece :=
  (trimmed_of_mem_split member).1.trim_eq

/-- If every piece that is kept is balanced, the scan of the whole text ends settled. The pieces that
are dropped are blank and change nothing. -/
theorem walk_eq_start_of_split {separator : Char} (ordinary : isOrdinary separator = true)
    {text : List Char} (balanced : ∀ piece ∈ split separator text, isBalanced piece = true) :
    Scan.start.walk text = .start := by
  apply walk_eq_start_of_pieces ordinary
  intro raw member
  by_cases blank : trim raw = []
  · exact Scan.walk_blank (trim_eq_nil_iff.mp blank)
  · apply walk_eq_start_of_isBalanced_trim
    apply balanced
    exact List.mem_filter.mpr ⟨List.mem_map_of_mem member, by simpa using blank⟩

end PipeQuery.Text
