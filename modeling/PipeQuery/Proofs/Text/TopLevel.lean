import Mathlib.Data.List.Basic
import PipeQuery.Proofs.Text.Scan

/-!
# The top level of a text

What a scan has found out by the end of a text can be read off the text in three passes: take the escapes
out, then the strings, and count the brackets that are left. The scan is settled if no escape and no string
is left incomplete and as many brackets open as close.
-/

set_option autoImplicit false

namespace PipeQuery.Text

/-- The text without its escapes, each of which is a backslash and whatever character follows it. A
backslash that nothing follows stays. -/
def withoutEscapes : List Char → List Char
  | [] => []
  | '\\' :: _ :: rest => withoutEscapes rest
  | c :: rest => c :: withoutEscapes rest

/-- The text without its strings, each of which goes from a quote to the next quote of its kind. There is
none if the text ends in a string. -/
def withoutStrings? : List Char → Option (List Char)
  | [] => some []
  | c :: rest =>
    if isQuote c then
      match _ends : rest.dropWhile (· != c) with
      | [] => none
      | _ :: after => withoutStrings? after
    else (withoutStrings? rest).map (c :: ·)
termination_by text => text.length
decreasing_by
  · have shorter := (List.dropWhile_sublist (l := rest) (· != c)).length_le
    simp_all only [List.length_cons]
    omega
  · simp

/-- No escape is pending at the end of the text, no string is open, and as many brackets close outside of
escapes and strings as open there. -/
def isTopLevel (text : List Char) : Bool :=
  let unescaped := withoutEscapes text
  !unescaped.contains '\\' && (withoutStrings? unescaped).any fun outer =>
    outer.countP isOpening == outer.countP isClosing

section Strings

variable {c : Char}

theorem withoutStrings?_open {rest : List Char} (quote : isQuote c = true) (unclosed : c ∉ rest) :
    withoutStrings? (c :: rest) = none := by
  have none : rest.dropWhile (· != c) = [] := by
    refine List.dropWhile_eq_nil_iff.mpr fun other member => bne_iff_ne.mpr ?_
    rintro rfl
    exact unclosed member
  rw [withoutStrings?, if_pos quote]
  split
  · rfl
  · next found => rw [none] at found; cases found

theorem withoutStrings?_string {content after : List Char} (quote : isQuote c = true)
    (unclosed : c ∉ content) :
    withoutStrings? (c :: (content ++ c :: after)) = withoutStrings? after := by
  have closes : (content ++ c :: after).dropWhile (· != c) = c :: after := by
    rw [List.dropWhile_append_of_pos]
    · simp
    · intro other member
      rw [bne_iff_ne]
      rintro rfl
      exact unclosed member
  rw [withoutStrings?, if_pos quote]
  split
  · next found => rw [closes] at found; cases found
  · next found => rw [closes] at found; cases found; rfl

theorem withoutStrings?_other {rest : List Char} (other : isQuote c = false) :
    withoutStrings? (c :: rest) = (withoutStrings? rest).map (c :: ·) := by
  rw [withoutStrings?, if_neg (Bool.not_eq_true _ ▸ other)]

end Strings

namespace Scan

variable {scan : Scan} {text : List Char}

/-! ## Escapes -/

theorem step_backslash (unescaped : scan.escaped = false) :
    scan.step '\\' = { scan with escaped := true } := by
  simp [step, unescaped]

theorem step_of_escaped (pending : scan.escaped = true) (c : Char) :
    scan.step c = { scan with escaped := false } := by
  simp [step, pending]

theorem escaped_step_of_ne {c : Char} (unescaped : scan.escaped = false) (plain : c ≠ '\\') :
    (scan.step c).escaped = false := by
  have other : (c == '\\') = false := beq_eq_false_iff_ne.mpr plain
  unfold step
  simp only [unescaped, other, Bool.false_eq_true, ↓reduceIte]
  repeat' split
  all_goals first | exact unescaped | rfl

theorem step_pair (unescaped : scan.escaped = false) (c : Char) : (scan.step '\\').step c = scan := by
  rw [step_backslash unescaped, step_of_escaped rfl, ← unescaped]

/-- Escapes make no difference to what a scan knows in the end, except that one may be pending. -/
theorem walk_withoutEscapes (unescaped : scan.escaped = false) :
    scan.walk (withoutEscapes text) = scan.walk text ∧
      (scan.walk text).escaped = (withoutEscapes text).contains '\\' := by
  induction text using withoutEscapes.induct generalizing scan with
  | case1 => exact ⟨rfl, by simpa [withoutEscapes] using unescaped⟩
  | case2 c rest ih =>
      rw [withoutEscapes, walk_cons, walk_cons, step_pair unescaped]
      exact ih unescaped
  | case3 c rest notEscape ih =>
      rw [withoutEscapes.eq_3 c rest notEscape, walk_cons, walk_cons]
      by_cases backslash : c = '\\'
      · subst backslash
        cases rest with
        | nil => exact ⟨rfl, by simp [step_backslash unescaped, withoutEscapes]⟩
        | cons d rest => exact absurd rfl (notEscape d rest rfl)
      · obtain ⟨same, pending⟩ := ih (escaped_step_of_ne unescaped backslash)
        refine ⟨same, ?_⟩
        rw [pending, List.contains_cons]
        simp [Ne.symm backslash]

/-! ## Strings -/

/-- Without backslashes a string goes on up to the next quote of its kind. -/
theorem walk_inside {quote : Char} {content : List Char} (unescaped : scan.escaped = false)
    (opened : scan.quote = some quote) (plain : '\\' ∉ content) (unclosed : quote ∉ content) :
    scan.walk content = scan := by
  induction content with
  | nil => rfl
  | cons c content ih =>
      simp only [List.mem_cons, not_or] at plain unclosed
      have still : scan.step c = scan := by
        simp [step, unescaped, opened, Ne.symm plain.1, unclosed.1]
      rw [walk_cons, still]
      exact ih plain.2 unclosed.2

/-- Outside of escapes and strings only brackets count. -/
theorem step_outside {c : Char} (plain : c ≠ '\\') (other : isQuote c = false)
    (unescaped : scan.escaped = false) (outside : scan.quote = none) :
    scan.step c =
      { scan with depth := scan.depth + [c].countP isOpening - [c].countP isClosing } := by
  obtain ⟨depth, quote, escaped⟩ := scan
  subst unescaped outside
  have ordinary : (c == '\\') = false := beq_eq_false_iff_ne.mpr plain
  by_cases opening : isOpening c = true
  · have notClosing : isClosing c = false := by
      rcases isOpening_iff.mp opening with rfl | rfl | rfl <;> rfl
    simp [step, ordinary, other, opening, notClosing]
  · cases closing : isClosing c <;> simp [step, ordinary, other, opening, closing]

/-- In a text without backslashes a string is open at the end if it cannot be taken out; if all strings
can, the brackets outside of them make the depth. -/
theorem walk_withoutStrings? (plain : '\\' ∉ text) (unescaped : scan.escaped = false)
    (outside : scan.quote = none) :
    (withoutStrings? text = none → (scan.walk text).quote ≠ none) ∧
      ∀ outer, withoutStrings? text = some outer → scan.walk text =
        { scan with depth := scan.depth + outer.countP isOpening - outer.countP isClosing } := by
  -- A string takes an unknown part of the text away, so the induction is on the length.
  induction length : text.length using Nat.strong_induction_on generalizing scan text with
  | _ bound ih =>
      cases text with
      | nil => simp [withoutStrings?]
      | cons c rest =>
          simp only [List.length_cons] at length
          simp only [List.mem_cons, not_or] at plain
          cases quote : isQuote c with
          | false =>
              have step := step_outside (Ne.symm plain.1) quote unescaped outside
              have kept : (scan.step c).escaped = false ∧ (scan.step c).quote = none := by
                rw [step]
                exact ⟨unescaped, outside⟩
              obtain ⟨opens, counts⟩ := ih rest.length (by omega) plain.2 kept.1 kept.2 rfl
              rw [step] at opens counts
              rw [withoutStrings?_other quote, walk_cons, step]
              refine ⟨fun open? => opens (Option.map_eq_none_iff.mp open?), fun outer found => ?_⟩
              obtain ⟨later, remains, rfl⟩ := Option.map_eq_some_iff.mp found
              have sum (bracket : Char → Bool) :
                  (c :: later).countP bracket = [c].countP bracket + later.countP bracket := by
                rw [← List.countP_append, List.singleton_append]
              rw [counts later remains, sum, sum]
              simp only [mk.injEq, and_true]
              push_cast
              omega
          | true =>
              let inside : Scan := { scan with quote := some c }
              have still : inside.escaped = false := unescaped
              have opened : inside.quote = some c := rfl
              rw [walk_cons, step_quote quote unescaped outside]
              by_cases closed : c ∈ rest
              · obtain ⟨content, after, rfl, unclosed⟩ := List.eq_append_cons_of_mem closed
                simp only [List.mem_append, List.mem_cons, not_or] at plain
                simp only [List.length_append, List.length_cons] at length
                have string : inside.walk (content ++ c :: after) = scan.walk after := by
                  rw [walk_append, walk_inside still opened plain.2.1 unclosed, walk_cons,
                    step_same_quote quote still opened]
                  simp only [inside, ← outside]
                rw [withoutStrings?_string quote unclosed, string]
                exact ih after.length (by omega) plain.2.2.2 unescaped outside rfl
              · have string : inside.walk rest = inside := walk_inside still opened plain.2 closed
                rw [withoutStrings?_open quote closed, string]
                simp [inside]

/-- A scan is settled at the end of exactly those texts that are at the top level there. -/
theorem settled_walk_eq_isTopLevel (text : List Char) : (start.walk text).settled = isTopLevel text := by
  obtain ⟨same, pending⟩ := @walk_withoutEscapes start text rfl
  rw [isTopLevel, settled, pending]
  cases backslash : (withoutEscapes text).contains '\\' with
  | true => simp only [Bool.not_true, Bool.and_false, Bool.false_and]
  | false =>
      have plain : '\\' ∉ withoutEscapes text := by simpa using backslash
      obtain ⟨opens, counts⟩ := @walk_withoutStrings? start _ plain rfl rfl
      rw [same] at opens counts
      cases found : withoutStrings? (withoutEscapes text) with
      | none => simpa using fun _ => Option.isSome_iff_ne_none.mpr (opens found)
      | some outer =>
          rw [counts outer found, Bool.eq_iff_iff]
          simp only [start, Option.any_some, Option.isNone_none, Bool.and_true, Bool.not_false,
            Bool.true_and, beq_iff_eq]
          omega

end Scan

end PipeQuery.Text
