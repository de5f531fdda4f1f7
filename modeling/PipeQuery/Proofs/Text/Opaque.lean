import PipeQuery.Proofs.Text.Quoted
import PipeQuery.Proofs.Text.TopLevel

/-!
# Strings are opaque

A content that stays quoted is one string wherever it stands: a scan that is outside of strings reads over it
and is left as it was, at whatever depth, and a text is cut before and behind it as if it were not there. A
string that closes with its last character and not before is one that stays quoted, so nothing is refused
that would do.
-/

set_option autoImplicit false

namespace PipeQuery.Text

/-- Read on from the scan, the string that the first character opens closes with the last character and not
before. -/
structure ClosesWithLast (scan : Scan) (token : List Char) : Prop where
  closed : (scan.walk token).quote = none
  opened : ∀ part, part <+: token → part ≠ [] → part ≠ token → (scan.walk part).quote.isSome = true

/-- The parts of a string that are no more than its start. -/
theorem start_of_quoted_iff {quote : Char} {content part : List Char} :
    (part <+: quote :: (content ++ [quote]) ∧ part ≠ [] ∧ part ≠ quote :: (content ++ [quote])) ↔
      ∃ inner, inner <+: content ∧ part = quote :: inner := by
  rw [List.prefix_cons_iff]
  constructor
  · rintro ⟨rfl | ⟨inner, rfl, start⟩, nonempty, proper⟩
    · exact absurd rfl nonempty
    · rcases List.prefix_concat_iff.mp start with whole | inside
      · exact absurd (congrArg (quote :: ·) whole) proper
      · exact ⟨inner, inside, rfl⟩
  · rintro ⟨inner, inside, rfl⟩
    refine ⟨.inr ⟨inner, rfl, inside.trans (List.prefix_append _ _)⟩, List.cons_ne_nil _ _, ?_⟩
    intro whole
    have shorter := inside.length_le
    rw [List.tail_eq_of_cons_eq whole, List.length_append, List.length_singleton] at shorter
    omega

theorem leavesOpen_iff {scan : Scan} {content : List Char} : leavesOpen scan content = true ↔
    (∀ part, part <+: content → part ≠ [] → (scan.walk part).quote.isSome = true) ∧
      (scan.walk content).escaped = false := by
  induction content generalizing scan with
  | nil => simp [leavesOpen]
  | cons c content ih =>
      rw [leavesOpen, Bool.and_eq_true, ih]
      constructor
      · rintro ⟨first, later, unescaped⟩
        refine ⟨fun part start nonempty => ?_, unescaped⟩
        rcases List.prefix_cons_iff.mp start with rfl | ⟨inner, rfl, inside⟩
        · exact absurd rfl nonempty
        · cases inner with
          | nil => exact first
          | cons d inner => exact later _ inside (List.cons_ne_nil _ _)
      · rintro ⟨parts, unescaped⟩
        refine ⟨parts [c] (by simp) (List.cons_ne_nil _ _), fun inner inside _ => ?_, unescaped⟩
        exact parts (c :: inner) (List.cons_prefix_cons.mpr ⟨rfl, inside⟩) (List.cons_ne_nil _ _)

section Quotes

variable {quote : Char} {content : List Char} {scan : Scan}

section Outside

variable (quotes : isQuote quote = true) (outside : scan.quote = none) (unescaped : scan.escaped = false)
  (stays : staysQuoted quote content = true)

include quotes outside unescaped stays

theorem closesWithLast_of_staysQuoted : ClosesWithLast scan (quote :: (content ++ [quote])) where
  closed := by rw [walk_quoted quotes outside unescaped stays, outside]
  opened := by
    intro part start nonempty proper
    obtain ⟨inner, inside, rfl⟩ := start_of_quoted_iff.mp ⟨start, nonempty, proper⟩
    rw [Scan.walk_cons, Scan.step_quote quotes unescaped outside]
    cases inner with
    | nil => rfl
    | cons c inner =>
        have parts := (leavesOpen_iff.mp (leavesOpen_of_staysQuoted unescaped stays)).1
        exact parts _ inside (List.cons_ne_nil _ _)

end Outside

/-- A string that is closed by its last character and not before stays quoted: an escape pending at the end
of the content would keep the string open, and a string that closed before would not be open there. -/
theorem staysQuoted_of_closesWithLast (quotes : isQuote quote = true)
    (closes : ClosesWithLast .start (quote :: (content ++ [quote]))) : staysQuoted quote content = true := by
  have opened : ∀ inner, inner <+: content → ((Scan.inside quote).walk inner).quote.isSome = true := by
    intro inner inside
    obtain ⟨start, nonempty, proper⟩ := start_of_quoted_iff.mpr ⟨inner, inside, rfl⟩
    have still := closes.opened _ start nonempty proper
    rwa [Scan.walk_cons, Scan.step_start_quote quotes] at still
  refine leavesOpen_iff.mpr ⟨fun part start _ => opened part start, ?_⟩
  have closed := closes.closed
  rw [Scan.walk_cons, Scan.step_start_quote quotes, Scan.walk_append, Scan.walk_cons, Scan.walk_nil] at closed
  have still := opened content (List.prefix_refl content)
  cases escaped : ((Scan.inside quote).walk content).escaped with
  | false => rfl
  | true =>
      rw [Scan.step_of_escaped escaped] at closed
      have closed : ((Scan.inside quote).walk content).quote = none := closed
      rw [closed] at still
      cases still

end Quotes

/-! ## Cutting around a string -/

theorem gluePieces_concat (pieces : List (List Char)) (last next : List Char) (others : List (List Char)) :
    gluePieces (pieces ++ [last]) (next :: others) = pieces ++ (last ++ next) :: others := by
  induction pieces with
  | nil => rfl
  | cons piece pieces ih => rw [List.cons_append, gluePieces_cons (by simp), ih, List.cons_append]

/-- A text in which no separator is met stays whole among the pieces around it. -/
theorem cut_around {separator : Char} {token before : List Char}
    (whole : isWhole separator (Scan.start.walk before) token = true)
    (back : (Scan.start.walk before).walk token = Scan.start.walk before) (after : List Char) :
    ∃ pieces last next others, cut separator .start before = pieces ++ [last] ∧
      cut separator (Scan.start.walk before) after = next :: others ∧
      cut separator .start (before ++ token ++ after) = pieces ++ (last ++ token ++ next) :: others := by
  obtain ⟨pieces, last, cutBefore⟩ :=
    (List.eq_nil_or_concat' (cut separator .start before)).resolve_left (cut_ne_nil _ _ _)
  obtain ⟨next, others, cutAfter⟩ :=
    List.exists_cons_of_ne_nil (cut_ne_nil separator (Scan.start.walk before) after)
  refine ⟨pieces, last, next, others, cutBefore, cutAfter, ?_⟩
  rw [List.append_assoc, cut_append, cut_append, cut_of_isWhole whole, back, cutBefore, cutAfter,
    List.append_assoc]
  exact gluePieces_concat pieces last (token ++ next) others

/-- A content that stays quoted makes an opaque string. Behind every text at the end of which the scan is
outside of strings and no escape is pending, whatever the depth, the scan reads the string from its first quote
to its last as one, is left as it was, meets no separator in between, and whatever follows, the text is cut
before and behind the string as it would be without it. Conversely, a content stays quoted if the string closes
with the last quote and not before. -/
theorem quoted_strings_are_opaque (quote : Char) (content : List Char) (quotes : isQuote quote = true) :
    let token := quote :: (content ++ [quote])
    (staysQuoted quote content = true → ∀ before : List Char,
      (Scan.start.walk before).quote = none → (Scan.start.walk before).escaped = false →
        Scan.start.walk (before ++ token) = Scan.start.walk before ∧
        ClosesWithLast (Scan.start.walk before) token ∧
        ∀ separator, isOrdinary separator = true →
          isWhole separator (Scan.start.walk before) token = true ∧
          ∀ after, ∃ pieces last next others, cut separator .start before = pieces ++ [last] ∧
            cut separator (Scan.start.walk before) after = next :: others ∧
            cut separator .start (before ++ token ++ after) = pieces ++ (last ++ token ++ next) :: others) ∧
      (ClosesWithLast .start token → staysQuoted quote content = true) := by
  intro token
  refine ⟨fun stays before outside unescaped => ?_, staysQuoted_of_closesWithLast quotes⟩
  have back := walk_quoted quotes outside unescaped stays
  refine ⟨by rw [Scan.walk_append, back], closesWithLast_of_staysQuoted quotes outside unescaped stays, ?_⟩
  intro separator ordinary
  have whole := isWhole_quoted_of_outside quotes outside unescaped stays ordinary
  exact ⟨whole, cut_around whole back⟩

theorem quoted_string_is_opaque_below_the_start :
    let content := "a\\'b, [c".toList
    let token := '\'' :: (content ++ ['\''])
    let before := "])x, ".toList
    isQuote '\'' = true ∧ staysQuoted '\'' content = true ∧ (Scan.start.walk before).depth = -2 ∧
      (Scan.start.walk before).quote = none ∧ (Scan.start.walk before).escaped = false ∧
      Scan.start.walk (before ++ token) = Scan.start.walk before ∧
      isWhole ',' (Scan.start.walk before) token = true ∧
      (ClosesWithLast .start token → staysQuoted '\'' content = true) := by
  intro content token before
  obtain ⟨isOpaque, closes⟩ := quoted_strings_are_opaque '\'' content (by decide)
  have stays : staysQuoted '\'' content = true := by decide
  have outside : (Scan.start.walk before).quote = none := by decide
  have unescaped : (Scan.start.walk before).escaped = false := by decide
  obtain ⟨back, -, cuts⟩ := isOpaque stays before outside unescaped
  exact ⟨by decide, stays, by decide, outside, unescaped, back, (cuts ',' (by decide)).1, closes⟩

end PipeQuery.Text
