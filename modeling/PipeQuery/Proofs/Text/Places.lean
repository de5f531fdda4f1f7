import Mathlib.Data.List.DropRight
import Mathlib.Data.List.Pairwise
import PipeQuery.Proofs.Text.Split
import PipeQuery.Proofs.Text.TopLevel

/-!
# Where a text is cut

Splitting cuts a text at the separators that stand at its top level and at no other character, and of the
pieces it loses only blanks at their edges. The characters are followed by their places, so that equal
characters are told apart.
-/

set_option autoImplicit false

namespace PipeQuery.Text

/-- The characters of a marked text, without their places. -/
def chars (marks : List (Char × Nat)) : List Char :=
  marks.map Prod.fst

/-- Whether a separator stands at this place and the text before it ends at the top level. -/
def isCut (separator : Char) (text : List Char) (mark : Char × Nat) : Bool :=
  mark.1 == separator && isTopLevel (text.take mark.2)

/-- The text with its places, cut at the separators at the top level. -/
def markedPieces (separator : Char) (text : List Char) : List (List (Char × Nat)) :=
  text.zipIdx.splitOnP (isCut separator text)

/-- The mark stands in a piece of which everything up to it or everything from it on is blank. -/
def IsEdge (pieces : List (List (Char × Nat))) (mark : Char × Nat) : Prop :=
  ∃ before after, before ++ mark :: after ∈ pieces ∧
    (AllBlank (chars (before ++ [mark])) ∨ AllBlank (chars (mark :: after)))

/-! ## Cutting -/

theorem cut_eq_splitOnP (separator : Char) (before text : List Char) :
    cut separator (Scan.start.walk before) text =
      ((text.zipIdx before.length).splitOnP (isCut separator (before ++ text))).map chars := by
  induction text generalizing before with
  | nil => rfl
  | cons c text ih =>
      have later := ih (before ++ [c])
      rw [Scan.walk_append, List.append_assoc, List.singleton_append, List.length_append,
        List.length_singleton] at later
      have here : isCut separator (before ++ c :: text) (c, before.length) =
          (c == separator && (Scan.start.walk before).settled) := by
        rw [isCut, List.take_left, Scan.settled_walk_eq_isTopLevel]
      rw [cut, List.zipIdx_cons, List.splitOnP_cons_eq_if_modifyHead, here]
      split
      · rw [List.map_cons, ← later]
        rfl
      · rw [Scan.walk_cons, Scan.walk_nil] at later
        rw [later]
        cases found : (text.zipIdx (before.length + 1)).splitOnP (isCut separator (before ++ c :: text)) with
        | nil => exact absurd found (List.splitOnP_ne_nil _ _)
        | cons piece pieces => rfl

theorem cut_eq_markedPieces (separator : Char) (text : List Char) :
    cut separator .start text = (markedPieces separator text).map chars :=
  cut_eq_splitOnP separator [] text

section Pieces

variable {α : Type} {p : α → Bool}

theorem flatten_splitOnP (items : List α) : (items.splitOnP p).flatten = items.filter fun item => !p item := by
  induction items with
  | nil => rfl
  | cons item items ih =>
      rw [List.splitOnP_cons_eq_if_modifyHead, List.filter_cons, ← ih]
      cases p item with
      | true => rfl
      | false =>
          cases found : items.splitOnP p with
          | nil => exact absurd found (List.splitOnP_ne_nil _ _)
          | cons piece pieces => rfl

theorem infix_of_mem_splitOnP {items piece : List α} (member : piece ∈ items.splitOnP p) :
    piece <:+: items := by
  -- The first piece is even a prefix, which is what lets an item be put in front of it.
  suffices pieces : (∀ piece ∈ (items.splitOnP p).head?, piece <+: items) ∧
      ∀ piece ∈ items.splitOnP p, piece <:+: items from pieces.2 piece member
  clear member
  induction items with
  | nil => simp
  | cons item items ih =>
      rw [List.splitOnP_cons_eq_if_modifyHead]
      obtain ⟨first, others⟩ := ih
      cases found : items.splitOnP p with
      | nil => exact absurd found (List.splitOnP_ne_nil _ _)
      | cons piece pieces =>
          rw [found] at first others
          have inside : ∀ other ∈ piece :: pieces, other <:+: item :: items :=
            fun other member => (others other member).trans (List.suffix_cons item items).isInfix
          cases p item with
          | true => exact ⟨by simp, List.forall_mem_cons.mpr ⟨List.nil_infix, inside⟩⟩
          | false =>
              have start : item :: piece <+: item :: items := List.cons_prefix_cons.mpr ⟨rfl, first piece rfl⟩
              refine ⟨by simpa using start, List.forall_mem_cons.mpr ⟨start.isInfix, ?_⟩⟩
              exact fun other member => inside other (List.mem_cons_of_mem _ member)

end Pieces

/-! ## Trimming -/

/-- What trimming leaves of a piece, with its places. -/
def trimMarks (piece : List (Char × Nat)) : List (Char × Nat) :=
  (piece.dropWhile fun mark => isBlank mark.1).rdropWhile fun mark => isBlank mark.1

/-- The pieces trimmed, without those that are blank. -/
def markedTokens (pieces : List (List (Char × Nat))) : List (List (Char × Nat)) :=
  (pieces.map trimMarks).filter fun token => !token.isEmpty

theorem chars_trimMarks (piece : List (Char × Nat)) : chars (trimMarks piece) = trim (chars piece) := by
  simp only [chars, trim, trimStart, trimEnd, trimMarks, List.rdropWhile, List.dropWhile_map,
    ← List.map_reverse]
  rfl

theorem exists_blanks_around_trimMarks (piece : List (Char × Nat)) :
    ∃ leading trailing, AllBlank (chars leading) ∧ AllBlank (chars trailing) ∧
      piece = leading ++ trimMarks piece ++ trailing := by
  refine ⟨piece.takeWhile fun mark => isBlank mark.1,
    (piece.dropWhile fun mark => isBlank mark.1).rtakeWhile fun mark => isBlank mark.1, ?_, ?_, ?_⟩
  · refine List.forall_mem_map.mpr fun mark member => ?_
    exact List.mem_takeWhile_imp (p := fun mark : Char × Nat => isBlank mark.1) member
  · refine List.forall_mem_map.mpr fun mark member => ?_
    exact List.mem_rtakeWhile_imp (p := fun mark : Char × Nat => isBlank mark.1) member
  · rw [List.append_assoc, trimMarks, List.rdropWhile_append_rtakeWhile, List.takeWhile_append_dropWhile]

theorem infix_trimMarks (piece : List (Char × Nat)) : trimMarks piece <:+: piece := by
  obtain ⟨leading, trailing, -, -, whole⟩ := exists_blanks_around_trimMarks piece
  exact ⟨leading, trailing, whole.symm⟩

theorem flatten_markedTokens_sublist (pieces : List (List (Char × Nat))) :
    (markedTokens pieces).flatten.Sublist pieces.flatten := by
  rw [markedTokens, List.flatten_filter_not_isEmpty]
  induction pieces with
  | nil => exact .slnil
  | cons piece pieces ih => exact (infix_trimMarks piece).sublist.append ih

theorem mem_flatten_markedTokens_iff {pieces : List (List (Char × Nat))} {mark : Char × Nat} :
    mark ∈ (markedTokens pieces).flatten ↔ ∃ piece ∈ pieces, mark ∈ trimMarks piece := by
  rw [markedTokens, List.flatten_filter_not_isEmpty]
  simp

theorem split_eq_markedTokens (separator : Char) (text : List Char) :
    split separator text = (markedTokens (markedPieces separator text)).map chars := by
  have emptiness : ((fun piece : List Char => !piece.isEmpty) ∘ chars) = fun token => !token.isEmpty := by
    funext token
    simp [chars]
  have trimmed : trim ∘ chars = chars ∘ trimMarks := funext fun piece => (chars_trimMarks piece).symm
  rw [split, cut_eq_markedPieces, List.map_map, trimmed, ← List.map_map, List.filter_map, emptiness,
    markedTokens]

/-! ## What is kept and what is lost -/

theorem pairwise_zipIdx (text : List Char) : text.zipIdx.Pairwise fun left right => left.2 < right.2 := by
  rw [← List.pairwise_map (f := Prod.snd) (R := (· < ·)), List.zipIdx_map_snd]
  exact List.pairwise_lt_range'

section Edges

variable {pieces : List (List (Char × Nat))} {piece : List (Char × Nat)} {mark : Char × Nat}

/-- A mark stands in one piece only. -/
theorem eq_of_mem_of_mem {other : List (Char × Nat)}
    (ordered : pieces.flatten.Pairwise fun left right => left.2 < right.2) (among : piece ∈ pieces)
    (otherAmong : other ∈ pieces) (member : mark ∈ piece) (otherMember : mark ∈ other) :
    piece = other := by
  by_contra different
  have apart : pieces.Pairwise fun left right => ∀ one ∈ left, ∀ next ∈ right, one.2 ≠ next.2 :=
    (List.pairwise_flatten.mp ordered).2.imp fun before one member next later =>
      Nat.ne_of_lt (before one member next later)
  have symmetric : Std.Symm fun left right : List (Char × Nat) =>
      ∀ one ∈ left, ∀ next ∈ right, one.2 ≠ next.2 :=
    ⟨fun _ _ unlike one member next later => (unlike next later one member).symm⟩
  exact apart.forall among otherAmong different mark member mark otherMember rfl

theorem isEdge_of_mem_of_not_mem (among : piece ∈ pieces) (member : mark ∈ piece)
    (trimmed : mark ∉ trimMarks piece) : IsEdge pieces mark := by
  obtain ⟨leading, trailing, blankBefore, blankAfter, whole⟩ := exists_blanks_around_trimMarks piece
  generalize trimMarks piece = token at trimmed whole
  subst whole
  rcases List.mem_append.mp member with inside | last
  · have first : mark ∈ leading := (List.mem_append.mp inside).resolve_right trimmed
    obtain ⟨before, between, rfl⟩ := List.append_of_mem first
    refine ⟨before, between ++ token ++ trailing, by simpa using among, .inl ?_⟩
    intro c blank
    exact blankBefore c (by simp [chars] at blank ⊢; tauto)
  · obtain ⟨between, after, rfl⟩ := List.append_of_mem last
    refine ⟨leading ++ token ++ between, after, by simpa using among, .inr ?_⟩
    intro c blank
    exact blankAfter c (by simp [chars] at blank ⊢; tauto)

theorem mem_of_le {before after : List (Char × Nat)} {other : Char × Nat}
    (ordered : (before ++ mark :: after).Pairwise fun left right => left.2 < right.2)
    (member : other ∈ before ++ mark :: after) :
    (other.2 ≤ mark.2 → other ∈ before ++ [mark]) ∧ (mark.2 ≤ other.2 → other ∈ mark :: after) := by
  obtain ⟨-, fromMark, across⟩ := List.pairwise_append.mp ordered
  rcases List.mem_append.mp member with early | late
  · have less := across other early mark List.mem_cons_self
    exact ⟨fun _ => List.mem_append_left _ early, fun above => absurd less (Nat.not_lt.mpr above)⟩
  · refine ⟨fun below => ?_, fun _ => late⟩
    rcases List.mem_cons.mp late with rfl | later
    · simp
    · exact absurd (List.rel_of_pairwise_cons fromMark later) (Nat.not_lt.mpr below)

/-- Nothing that is kept is at an edge, since a kept piece has an unblank character at both of its ends. -/
theorem not_mem_markedTokens_of_isEdge (ordered : pieces.flatten.Pairwise fun left right => left.2 < right.2)
    (edge : IsEdge pieces mark) : mark ∉ (markedTokens pieces).flatten := by
  intro kept
  obtain ⟨piece, among, member⟩ := mem_flatten_markedTokens_iff.mp kept
  obtain ⟨before, after, edgeAmong, blank⟩ := edge
  have sublist := (infix_trimMarks piece).sublist
  obtain rfl := eq_of_mem_of_mem ordered among edgeAmong (sublist.subset member) (by simp)
  have positions := (List.pairwise_flatten.mp ordered).1 _ among
  have tokenPositions := positions.sublist sublist
  have trimmed := trimmed_trim (chars (before ++ mark :: after))
  rw [← chars_trimMarks] at trimmed
  generalize trimMarks (before ++ mark :: after) = token at member sublist tokenPositions trimmed
  rcases blank with leading | trailing
  · -- The first mark of the token is no later than the kept one, so it would be blank.
    obtain ⟨first, rest, rfl⟩ := List.exists_cons_of_ne_nil (List.ne_nil_of_mem member)
    have unblank := trimmed.first first.1 rfl
    have early : first.2 ≤ mark.2 := by
      rcases List.mem_cons.mp member with rfl | later
      · exact Nat.le_refl _
      · exact Nat.le_of_lt (List.rel_of_pairwise_cons tokenPositions later)
    have inside := (mem_of_le positions (sublist.subset List.mem_cons_self)).1 early
    have blank := leading first.1 (List.mem_map_of_mem inside)
    simp [unblank] at blank
  · -- The last one is no earlier.
    obtain ⟨rest, last, rfl⟩ := (List.eq_nil_or_concat' token).resolve_left (List.ne_nil_of_mem member)
    have unblank := trimmed.last last.1 (by simp [chars])
    have late : mark.2 ≤ last.2 := by
      rcases List.mem_append.mp member with earlier | same
      · exact Nat.le_of_lt ((List.pairwise_append.mp tokenPositions).2.2 mark earlier last (by simp))
      · rw [List.mem_singleton.mp same]
    have inside := (mem_of_le positions (sublist.subset (by simp))).2 late
    have blank := trailing last.1 (List.mem_map_of_mem inside)
    simp [unblank] at blank

end Edges

theorem flatten_markedPieces (separator : Char) (text : List Char) :
    (markedPieces separator text).flatten =
      text.zipIdx.filter fun mark => !isCut separator text mark :=
  flatten_splitOnP _

/-- The pieces of a text stand in it one after another. -/
theorem flatten_split_sublist (separator : Char) (text : List Char) :
    (split separator text).flatten.Sublist text := by
  have kept : (markedPieces separator text).flatten.Sublist text.zipIdx :=
    flatten_markedPieces separator text ▸ List.filter_sublist
  have among := ((flatten_markedTokens_sublist _).trans kept).map Prod.fst
  rw [List.map_flatten, List.zipIdx_map_fst] at among
  rw [split_eq_markedTokens]
  exact among

/-- A character is lost if and only if it is a separator at the top level or a blank at the edge of a
piece. -/
theorem not_mem_markedTokens_iff {separator : Char} {text : List Char} {mark : Char × Nat}
    (member : mark ∈ text.zipIdx) :
    mark ∉ (markedTokens (markedPieces separator text)).flatten ↔
      isCut separator text mark = true ∨ IsEdge (markedPieces separator text) mark := by
  have kept := flatten_markedPieces separator text
  constructor
  · intro lost
    cases cut : isCut separator text mark with
    | true => exact .inl rfl
    | false =>
        have inside : mark ∈ (markedPieces separator text).flatten := by
          rw [kept]
          exact List.mem_filter.mpr ⟨member, by rw [cut, Bool.not_false]⟩
        obtain ⟨piece, among, pieceMember⟩ := List.mem_flatten.mp inside
        refine .inr (isEdge_of_mem_of_not_mem among pieceMember fun trimmed => lost ?_)
        exact mem_flatten_markedTokens_iff.mpr ⟨piece, among, trimmed⟩
  · rintro (cut | edge)
    · intro stays
      have inside := (flatten_markedTokens_sublist _).subset stays
      rw [kept] at inside
      simp [cut] at inside
    · refine not_mem_markedTokens_of_isEdge ?_ edge
      rw [kept]
      exact (pairwise_zipIdx text).filter _

/-- Splitting cuts a text at exactly those commas before which no escape is pending, no string is open and
as many brackets have closed as opened outside of escapes and strings. It trims the pieces and drops the
blank ones. So the tokens are runs of the text one after another, and of all its characters they lack the
commas where it is cut and the blanks at the edges of the pieces, but no others. -/
theorem splitArguments_cuts_at_top_level_commas (text : String) :
    let marks := text.toList.zipIdx
    let pieces := markedPieces ',' text.toList
    splitArguments text =
        ((pieces.map fun piece => trim (chars piece)).filter fun token => !token.isEmpty).map String.ofList ∧
      ∃ tokens : List (List (Char × Nat)),
        splitArguments text = tokens.map (fun token => String.ofList (chars token)) ∧
          tokens.flatten.Sublist marks ∧ (∀ token ∈ tokens, token <:+: marks) ∧
          ∀ mark ∈ marks,
            mark ∉ tokens.flatten ↔ isCut ',' text.toList mark = true ∨ IsEdge pieces mark := by
  intro marks pieces
  have kept : pieces.flatten.Sublist marks := by
    rw [flatten_markedPieces]
    exact List.filter_sublist
  refine ⟨?_, markedTokens pieces, ?_, (flatten_markedTokens_sublist pieces).trans kept, ?_,
    fun mark member => not_mem_markedTokens_iff member⟩
  · rw [splitArguments, split, cut_eq_markedPieces, List.map_map]
    rfl
  · rw [splitArguments, split_eq_markedTokens, List.map_map]
    rfl
  · intro token member
    obtain ⟨piece, among, rfl⟩ := List.mem_map.mp (List.mem_filter.mp member).1
    exact (infix_trimMarks piece).trans (infix_of_mem_splitOnP among)

theorem splitArguments_cuts_beside_escapes_and_stray_brackets :
    let text := " ],x[ a\\,b ,'c,\\',d', , e\\ "
    let marks := text.toList.zipIdx
    let pieces := markedPieces ',' text.toList
    let shown := ["],x[ a\\,b", "'c,\\',d'", "e\\"]
    splitArguments text = shown ∧
      ((pieces.map fun piece => trim (chars piece)).filter fun token => !token.isEmpty).map String.ofList =
        shown ∧
      ∃ tokens : List (List (Char × Nat)), shown = tokens.map (fun token => String.ofList (chars token)) ∧
        tokens.flatten.Sublist marks ∧ (∀ token ∈ tokens, token <:+: marks) ∧
          ∀ mark ∈ marks,
            mark ∉ tokens.flatten ↔ isCut ',' text.toList mark = true ∨ IsEdge pieces mark := by
  intro text marks pieces shown
  have split : splitArguments text = shown := by decide +kernel
  obtain ⟨cut, tokens, same, places⟩ := splitArguments_cuts_at_top_level_commas text
  exact ⟨split, cut.symm.trans split, tokens, split.symm.trans same, places⟩

end PipeQuery.Text
