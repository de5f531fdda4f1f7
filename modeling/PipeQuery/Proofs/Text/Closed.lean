import PipeQuery.Proofs.Text.Split

/-!
# Texts that are closed in themselves

A closed text opens every bracket that it closes and closes every bracket and string that it opens, so
it may stand in brackets without a separator inside being seen. Closed texts in a row are closed, as
are closed texts in brackets.
-/

set_option autoImplicit false

namespace PipeQuery.Text

/-! ## Scans that do not settle -/

/-- No separator of the text is met in a settled state. -/
def isWhole (separator : Char) (scan : Scan) : List Char → Bool
  | [] => true
  | c :: rest => !(c == separator && scan.settled) && isWhole separator (scan.step c) rest

theorem isWhole_append (separator : Char) (scan : Scan) (left right : List Char) :
    isWhole separator scan (left ++ right) =
      (isWhole separator scan left && isWhole separator (scan.walk left) right) := by
  induction left generalizing scan with
  | nil => rfl
  | cons c left ih => simp only [List.cons_append, isWhole, ih, Scan.walk_cons, Bool.and_assoc]

theorem isWhole_of_not_mem {separator : Char} {scan : Scan} {text : List Char}
    (absent : separator ∉ text) : isWhole separator scan text = true := by
  induction text generalizing scan with
  | nil => rfl
  | cons c text ih =>
      simp only [List.mem_cons, not_or] at absent
      simp [isWhole, ih absent.2, Ne.symm absent.1]

/-- A text in which no separator is met in a settled state is one piece. -/
theorem cut_of_isWhole {separator : Char} {scan : Scan} {text : List Char}
    (whole : isWhole separator scan text = true) : cut separator scan text = [text] := by
  induction text generalizing scan with
  | nil => rfl
  | cons c text ih =>
      simp only [isWhole, Bool.and_eq_true, Bool.not_eq_true'] at whole
      simp only [cut, whole.1, ih whole.2, Bool.false_eq_true, ↓reduceIte]

namespace Scan

/-- The same scan with more brackets open around it. -/
def deepen (levels : Nat) (scan : Scan) : Scan :=
  { scan with depth := scan.depth + levels }

theorem step_deepen (levels : Nat) (scan : Scan) (c : Char) :
    (scan.deepen levels).step c = (scan.step c).deepen levels := by
  unfold step deepen
  dsimp only
  split
  · rfl
  split
  · rfl
  split
  · split
    · rfl
    · split <;> rfl
  split
  · rfl
  split
  · simp only [Int.add_right_comm]
  split
  · simp only [Int.sub_eq_add_neg, Int.add_right_comm]
  · rfl

theorem walk_deepen (levels : Nat) (scan : Scan) (text : List Char) :
    (scan.deepen levels).walk text = (scan.walk text).deepen levels := by
  induction text generalizing scan with
  | nil => rfl
  | cons c text ih => rw [walk_cons, walk_cons, step_deepen, ih]

/-- The depth is nowhere negative along the text. -/
def nests (scan : Scan) : List Char → Bool
  | [] => 0 ≤ scan.depth
  | c :: rest => 0 ≤ scan.depth && nests (scan.step c) rest

theorem nests_append (scan : Scan) (left right : List Char) :
    scan.nests (left ++ right) = (scan.nests left && (scan.walk left).nests right) := by
  induction left generalizing scan with
  | nil =>
      by_cases above : 0 ≤ scan.depth
      · simp [nests, above]
      · cases right <;> simp [nests, above]
  | cons c left ih => simp only [List.cons_append, nests, ih, walk_cons, Bool.and_assoc]

theorem nests_deepen {scan : Scan} {text : List Char} (nested : scan.nests text = true) (levels : Nat) :
    (scan.deepen levels).nests text = true := by
  induction text generalizing scan with
  | nil =>
      simp only [nests, decide_eq_true_eq] at nested ⊢
      simp only [deepen]
      omega
  | cons c text ih =>
      simp only [nests, Bool.and_eq_true, decide_eq_true_eq] at nested ⊢
      have above : 0 ≤ (scan.deepen levels).depth := by
        simp only [deepen]
        omega
      exact ⟨above, by rw [step_deepen]; exact ih nested.2⟩

theorem settled_eq_false_of_depth {scan : Scan} (inside : 0 < scan.depth) : scan.settled = false := by
  have nonzero : scan.depth ≠ 0 := by omega
  simp [settled, nonzero]

/-- No separator inside brackets is met in a settled state. -/
theorem isWhole_of_nests {separator : Char} {scan : Scan} {text : List Char}
    (nested : scan.nests text = true) {levels : Nat} (inside : 0 < levels) :
    isWhole separator (scan.deepen levels) text = true := by
  induction text generalizing scan with
  | nil => rfl
  | cons c text ih =>
      simp only [nests, Bool.and_eq_true, decide_eq_true_eq] at nested
      have unsettled : (scan.deepen levels).settled = false := by
        apply settled_eq_false_of_depth
        simp only [deepen]
        omega
      simp only [isWhole, unsettled, Bool.and_false, Bool.not_false, Bool.true_and, step_deepen]
      exact ih nested.2

end Scan

/-! ## Closed texts -/

/-- The brackets of the text never close below its start and all close, and it ends with no string open
and no escape pending. -/
structure Closed (text : List Char) : Prop where
  settled : Scan.start.walk text = .start
  nested : Scan.start.nests text = true

theorem Closed.nil : Closed [] := ⟨rfl, rfl⟩

theorem Closed.append {left right : List Char} (first : Closed left) (second : Closed right) :
    Closed (left ++ right) := by
  constructor
  · rw [Scan.walk_append, first.settled, second.settled]
  · rw [Scan.nests_append, first.settled, first.nested, second.nested]
    rfl

theorem closed_of_ordinary {text : List Char} (ordinary : ∀ c ∈ text, isOrdinary c = true) :
    Closed text := by
  refine ⟨Scan.walk_ordinary ordinary rfl, ?_⟩
  induction text with
  | nil => rfl
  | cons c text ih =>
      have step := Scan.step_ordinary (ordinary c List.mem_cons_self)
        (show Scan.start.escaped = false from rfl)
      rw [Scan.nests, step, ih fun d member => ordinary d (List.mem_cons_of_mem _ member)]
      rfl

theorem Closed.isWhole_append {separator : Char} {left right : List Char} (closed : Closed left)
    (first : isWhole separator .start left = true) (second : isWhole separator .start right = true) :
    isWhole separator .start (left ++ right) = true := by
  rw [Text.isWhole_append, closed.settled, first, second]
  rfl

/-! ## Brackets -/

theorem Scan.step_opening {c : Char} (opening : isOpening c = true) :
    Scan.start.step c = Scan.start.deepen 1 := by
  rcases isOpening_iff.mp opening with rfl | rfl | rfl <;> rfl

theorem Scan.step_closing {c : Char} (closing : isClosing c = true) :
    (Scan.start.deepen 1).step c = .start := by
  rcases isClosing_iff.mp closing with rfl | rfl | rfl <;> rfl

section Brackets

variable {opening closing : Char} {inner : List Char}

theorem Closed.bracketed (opens : isOpening opening = true) (closes : isClosing closing = true)
    (closed : Closed inner) : Closed (opening :: (inner ++ [closing])) := by
  have inside : (Scan.start.deepen 1).walk inner = Scan.start.deepen 1 := by
    rw [Scan.walk_deepen, closed.settled]
  constructor
  · rw [Scan.walk_cons, Scan.step_opening opens, Scan.walk_append, inside, Scan.walk_cons,
      Scan.step_closing closes, Scan.walk_nil]
  · simp only [Scan.nests, Scan.step_opening opens, Scan.nests_append, inside,
      Scan.nests_deepen closed.nested, Scan.step_closing closes]
    rfl

theorem isWhole_bracketed {separator : Char} (ordinary : isOrdinary separator = true)
    (opens : isOpening opening = true) (closed : Closed inner) :
    isWhole separator .start (opening :: (inner ++ [closing])) = true := by
  have different : (opening == separator) = false := by
    rw [beq_eq_false_iff_ne]
    rintro rfl
    simp [isOrdinary, opens] at ordinary
  have inside : (Scan.start.deepen 1).walk inner = Scan.start.deepen 1 := by
    rw [Scan.walk_deepen, closed.settled]
  simp only [isWhole, different, Scan.step_opening opens, Text.isWhole_append, inside,
    Scan.isWhole_of_nests closed.nested (show 0 < 1 by decide)]
  simp [Scan.settled, Scan.deepen, Scan.start]

end Brackets

end PipeQuery.Text
