import PipeQuery.Proofs.Text.Piece
import PipeQuery.Proofs.Text.TopLevel

/-!
# Tokens joined again

The tokens of a text, joined by commas, split into the same tokens again, unless one of them ends in a
backslash that takes the comma behind it. That happens to a token whose last character was an escaped
blank: the text is cut where escapes count, but it is trimmed where they do not.
-/

set_option autoImplicit false

namespace PipeQuery.Text

namespace Scan

/-- The scan after a backslash at the top level. -/
def pending : Scan := { escaped := true }

/-- Blanks lead back to the start from nowhere else than the start, and after a backslash. -/
theorem eq_of_walk_blank {scan : Scan} {blanks : List Char} (blank : AllBlank blanks)
    (settled : scan.walk blanks = start) : scan = start ∨ scan = pending ∧ blanks ≠ [] := by
  cases blanks with
  | nil => exact .inl settled
  | cons c rest =>
      have ordinary : ∀ d ∈ c :: rest, isOrdinary d = true := fun d member =>
        isOrdinary_of_isBlank (blank d member)
      cases escaped : scan.escaped with
      | false => exact .inl ((walk_ordinary ordinary escaped).symm.trans settled)
      | true =>
          rw [walk_cons, step_of_escaped escaped,
            walk_ordinary (fun d member => ordinary d (List.mem_cons_of_mem _ member)) rfl] at settled
          obtain ⟨depth, quote, _⟩ := scan
          cases settled
          exact .inr ⟨congrArg (Scan.mk 0 none) escaped, by simp⟩

end Scan

section Pieces

variable {separator : Char} {text : List Char}

/-! ## Pieces and tokens of a text -/

theorem isWhole_of_cut {scan : Scan} (single : cut separator scan text = [text]) :
    isWhole separator scan text = true := by
  induction text generalizing scan with
  | nil => rfl
  | cons c text ih =>
      rw [cut] at single
      split at single
      · simp at single
      · next open? =>
          cases found : cut separator (scan.step c) text with
          | nil => exact absurd found (cut_ne_nil _ _ _)
          | cons piece pieces =>
              simp only [found, List.cons.injEq, true_and] at single
              obtain ⟨rfl, rfl⟩ := single
              rw [isWhole, ih found, Bool.and_true, Bool.not_eq_true', Bool.eq_false_iff]
              exact open?

/-- Every piece begins where the scan has settled and has no separator to be cut at; all but the last lead
back to where they begin. -/
theorem cut_start_spec (ordinary : isOrdinary separator = true) (text : List Char) :
    (∀ piece ∈ cut separator .start text, isWhole separator .start piece = true ∧
        ∃ before after, text = before ++ piece ++ after ∧ Scan.start.walk before = .start) ∧
      ∀ piece ∈ (cut separator .start text).dropLast, Scan.start.walk piece = .start := by
  induction length : text.length using Nat.strong_induction_on generalizing text with
  | _ bound ih =>
      rcases cut_cases ordinary .start text with single | ⟨first, rest, rfl, settled, pieces⟩
      · rw [single]
        refine ⟨List.forall_mem_singleton.mpr ⟨isWhole_of_cut single, [], [], by simp, rfl⟩, by simp⟩
      · obtain ⟨laterWhole, laterSettled⟩ := ih rest.length (by rw [← length]; simp; omega) rest rfl
        have single : cut separator .start first = [first] := by
          have both := cut_append_separator rest settled ordinary
          rw [pieces] at both
          exact List.append_cancel_right both.symm
        rw [pieces]
        refine ⟨List.forall_mem_cons.mpr ⟨⟨isWhole_of_cut single, [], _, rfl, rfl⟩, ?_⟩, ?_⟩
        · intro piece member
          obtain ⟨whole, before, after, rfl, led⟩ := laterWhole piece member
          refine ⟨whole, first ++ separator :: before, after, by simp, ?_⟩
          rw [Scan.walk_append, settled, Scan.walk_cons, Scan.step_ordinary ordinary rfl, led]
        · rw [List.dropLast_cons_of_ne_nil (cut_ne_nil _ _ _)]
          exact List.forall_mem_cons.mpr ⟨settled, laterSettled⟩

theorem isWhole_of_mem_split (ordinary : isOrdinary separator = true) {token : List Char}
    (member : token ∈ split separator text) : isWhole separator .start token = true := by
  obtain ⟨raw, among, rfl⟩ := List.mem_map.mp (List.mem_filter.mp member).1
  obtain ⟨leading, trailing, blank, -, shape⟩ := exists_blanks_around_trim raw
  have whole := ((cut_start_spec ordinary text).1 raw among).1
  rw [shape, isWhole_append, isWhole_append, Scan.walk_blank blank, Bool.and_eq_true,
    Bool.and_eq_true] at whole
  exact whole.1.2

theorem dropLast_filter_sublist {α : Type} (p : α → Bool) (items : List α) :
    (items.filter p).dropLast.Sublist items.dropLast := by
  rcases List.eq_nil_or_concat' items with rfl | ⟨items, last, rfl⟩
  · exact .slnil
  · rw [List.dropLast_concat, List.filter_append]
    cases kept : p last with
    | true => simp [kept]
    | false => simpa [kept] using (List.dropLast_sublist _).trans List.filter_sublist

/-- A token that others follow leaves nothing open, except that it may end in a backslash whose blank has
been cut off. -/
theorem leak_of_mem_dropLast_split (ordinary : isOrdinary separator = true) {token : List Char}
    (member : token ∈ (split separator text).dropLast) :
    Scan.start.walk token = .start ∨ Scan.start.walk token = .pending ∧
      ∃ before blank after, text = before ++ token ++ blank :: after ∧ isBlank blank = true ∧
        Scan.start.walk before = .start := by
  have among := (dropLast_filter_sublist _ _).subset member
  rw [← List.map_dropLast] at among
  obtain ⟨raw, rawMember, rfl⟩ := List.mem_map.mp among
  obtain ⟨pieces, settled⟩ := cut_start_spec ordinary text
  obtain ⟨-, before, after, whole, led⟩ := pieces raw (List.dropLast_subset _ rawMember)
  obtain ⟨leading, trailing, blankBefore, blankAfter, shape⟩ := exists_blanks_around_trim raw
  have back := settled raw rawMember
  rw [shape, Scan.walk_append, Scan.walk_append, Scan.walk_blank blankBefore] at back
  refine (Scan.eq_of_walk_blank blankAfter back).imp_right fun ⟨leaks, nonempty⟩ => ⟨leaks, ?_⟩
  obtain ⟨blank, trailing, rfl⟩ := List.exists_cons_of_ne_nil nonempty
  refine ⟨before ++ leading, blank, trailing ++ after, ?_, blankAfter blank List.mem_cons_self, ?_⟩
  · rw [whole]
    generalize trim raw = token at shape
    subst shape
    simp
  · rw [Scan.walk_append, led, Scan.walk_blank blankBefore]

/-! ## Joining tokens -/

/-- A token that ends in a backslash swallows the separator behind it. -/
theorem split_append_of_pending {token : List Char} (whole : isWhole separator .start token = true)
    (trimmed : Trimmed token) (nonempty : token ≠ []) (unblank : isBlank separator = false)
    (leaks : Scan.start.walk token = .pending) (rest : List Char) :
    ∃ more others, split separator (token ++ separator :: rest) = (token ++ separator :: more) :: others := by
  have swallowed : ∃ piece pieces,
      cut separator .start (token ++ separator :: rest) = (token ++ separator :: piece) :: pieces := by
    rw [cut_append, cut_of_isWhole whole, leaks, cut]
    cases found : cut separator (Scan.pending.step separator) rest with
    | nil => exact absurd found (cut_ne_nil _ _ _)
    | cons piece pieces => exact ⟨piece, pieces, by simp [Scan.settled, Scan.pending, gluePieces]⟩
  obtain ⟨piece, pieces, cut⟩ := swallowed
  have kept : trim (token ++ separator :: piece) = token ++ separator :: trimEnd piece := by
    rw [trim, trimmed.trimStart_append nonempty, trimEnd_append_cons unblank]
  exact ⟨trimEnd piece, _, by rw [split, cut, List.map_cons, kept, List.filter_cons_of_pos (by simp)]⟩

/-- Tokens that leave nothing open but an escape split into themselves if and only if none does even
that, the last one apart. -/
theorem split_intercalate_iff (ordinary : isOrdinary separator = true) (unblank : isBlank separator = false)
    {after : List Char} (blank : AllBlank after) {tokens : List (List Char)}
    (whole : ∀ token ∈ tokens, isWhole separator .start token = true)
    (trimmed : ∀ token ∈ tokens, Trimmed token ∧ token ≠ [])
    (leak : ∀ token ∈ tokens.dropLast, Scan.start.walk token = .start ∨ Scan.start.walk token = .pending) :
    split separator ((separator :: after).intercalate tokens) = tokens ↔
      ∀ token ∈ tokens.dropLast, isBalanced token = true := by
  induction tokens with
  | nil => simp [split, cut]
  | cons token tokens ih =>
      have here := whole token List.mem_cons_self
      obtain ⟨edges, nonempty⟩ := trimmed token List.mem_cons_self
      cases tokens with
      | nil => simp [split_of_isWhole_of_trimmed here edges nonempty]
      | cons next tokens =>
          rw [List.dropLast_cons_of_ne_nil (List.cons_ne_nil _ _)] at leak ⊢
          have later := ih (fun other member => whole other (List.mem_cons_of_mem _ member))
            (fun other member => trimmed other (List.mem_cons_of_mem _ member))
            (fun other member => leak other (List.mem_cons_of_mem _ member))
          rw [List.intercalate_cons_cons, List.append_assoc, List.cons_append, List.forall_mem_cons]
          rcases leak token List.mem_cons_self with settled | pending
          · rw [split_append_separator ordinary settled, split_blank_append unblank blank,
              split_of_isWhole_of_trimmed here edges nonempty, List.singleton_append, List.cons.injEq, later,
              isBalanced_iff]
            simp [settled]
          · obtain ⟨more, others, swallowed⟩ := split_append_of_pending here edges nonempty unblank pending
              (after ++ (separator :: after).intercalate (next :: tokens))
            have unbalanced : isBalanced token = false := by rw [isBalanced, pending]; rfl
            rw [swallowed, unbalanced]
            simp

end Pieces

theorem toList_joined (tokens : List (List Char)) :
    (", ".intercalate (tokens.map String.ofList)).toList = [',', ' '].intercalate tokens :=
  toList_intercalate_ofList ", " tokens

/-- The tokens of a text joined by commas split into the same tokens if and only if each but the last is
balanced. None of these leaves a bracket or a string open. One that leaves an escape open stands in the text
in front of a blank, which belongs to the escape and has been trimmed. -/
theorem joined_tokens_split_again_unless_an_escape_leaks (text : String) :
    let tokens := splitArguments text
    (splitArguments (", ".intercalate tokens) = tokens ↔
        ∀ token ∈ tokens.dropLast, isBalanced token.toList = true) ∧
      ∀ token ∈ tokens.dropLast, isBalanced token.toList = true ∨
        Scan.start.walk token.toList = { escaped := true } ∧
          ∃ before blank after, text.toList = before ++ token.toList ++ blank :: after ∧
            isBlank blank = true ∧ isTopLevel before = true := by
  intro tokens
  have leak {token : List Char} (member : token ∈ (split ',' text.toList).dropLast) :=
    leak_of_mem_dropLast_split (by decide) member
  have again := split_intercalate_iff (show isOrdinary ',' = true from rfl) rfl allBlank_space
    (fun token member => isWhole_of_mem_split rfl member)
    (fun token member => trimmed_of_mem_split member)
    (fun token member => (leak member).imp_right And.left)
  have shown : tokens = (split ',' text.toList).map String.ofList := rfl
  have balanced : (∀ token ∈ tokens.dropLast, isBalanced token.toList = true) ↔
      ∀ token ∈ (split ',' text.toList).dropLast, isBalanced token = true := by
    simp [shown, ← List.map_dropLast]
  refine ⟨?_, ?_⟩
  · rw [balanced, ← again, shown, splitArguments, toList_joined]
    exact (List.map_injective_iff.mpr fun _ _ => String.ofList_injective).eq_iff
  · rw [shown, ← List.map_dropLast, List.forall_mem_map]
    intro token member
    rw [String.toList_ofList, isBalanced_iff]
    refine (leak member).imp_right fun ⟨pending, before, blank, after, whole, isBlank, led⟩ => ?_
    refine ⟨pending, before, blank, after, whole, isBlank, ?_⟩
    rw [← Scan.settled_walk_eq_isTopLevel, led]
    rfl

theorem joined_tokens_split_again_behind_escaped_commas :
    let tokens := splitArguments " a\\,b ,, 'c, \\\\' ,\x7dd\x7b,[e"
    tokens = ["a\\,b", "'c, \\\\'", "\x7dd\x7b", "[e"] ∧
      (∀ token ∈ tokens.dropLast, isBalanced token.toList = true) ∧
      splitArguments (", ".intercalate tokens) = tokens := by
  intro tokens
  have balanced : ∀ token ∈ tokens.dropLast, isBalanced token.toList = true := by decide +kernel
  exact ⟨by decide +kernel, balanced,
    (joined_tokens_split_again_unless_an_escape_leaks " a\\,b ,, 'c, \\\\' ,\x7dd\x7b,[e").1.mpr balanced⟩

/-- The blank of the escape is trimmed, so the backslash takes the comma that joins the tokens. -/
theorem tokens_join_where_an_escaped_blank_is_trimmed :
    let tokens := splitArguments "a\\ ,b"
    tokens = ["a\\", "b"] ∧ splitArguments (", ".intercalate tokens) = ["a\\, b"] ∧
      splitArguments (", ".intercalate tokens) ≠ tokens := by
  decide +kernel

end PipeQuery.Text
