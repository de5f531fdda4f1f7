import PipeQuery.Proofs.Text.Quoted

/-!
# Pieces

A piece is a text that splitting leaves as it is. Pieces with separators between them, and blanks
around the separators, split into the same pieces again.
-/

set_option autoImplicit false

namespace PipeQuery.Text

/-- A text that leaves no bracket, string or escape open and has no separator outside of them. Its
brackets may close below its start, so it need not stay one piece inside of other brackets. -/
structure StandsAlone (separator : Char) (text : List Char) : Prop where
  settled : Scan.start.walk text = .start
  whole : isWhole separator .start text = true

/-- A text that is one piece by itself, alone or between other pieces. -/
structure Piece (separator : Char) (text : List Char) : Prop where
  closed : Closed text
  whole : isWhole separator .start text = true
  trimmed : Trimmed text
  nonempty : text ≠ []

section Pieces

variable {separator : Char} {text : List Char}

theorem split_of_isWhole (whole : isWhole separator .start text = true) :
    split separator text = [trim text].filter fun piece => !piece.isEmpty := by
  rw [split, cut_of_isWhole whole, List.map_singleton]

theorem split_of_isWhole_of_trimmed (whole : isWhole separator .start text = true) (trimmed : Trimmed text)
    (nonempty : text ≠ []) : split separator text = [text] := by
  simp [split_of_isWhole whole, trimmed.trim_eq, nonempty]

theorem Piece.split_eq (piece : Piece separator text) : split separator text = [text] :=
  split_of_isWhole_of_trimmed piece.whole piece.trimmed piece.nonempty

theorem Piece.standsAlone (piece : Piece separator text) : StandsAlone separator text :=
  ⟨piece.closed.settled, piece.whole⟩

theorem toList_intercalate_ofList (joint : String) (texts : List (List Char)) :
    (joint.intercalate (texts.map String.ofList)).toList = joint.toList.intercalate texts := by
  rw [String.toList_intercalate, List.map_map]
  simp [Function.comp_def]

/-- Texts that stand alone, joined by a separator with blanks around it, split into what trimming leaves
of them. -/
theorem split_intercalate_of_standsAlone (ordinary : isOrdinary separator = true)
    (unblank : isBlank separator = false) {before after : List Char} (blankBefore : AllBlank before)
    (blankAfter : AllBlank after) {texts : List (List Char)}
    (alone : ∀ text ∈ texts, StandsAlone separator text) :
    split separator ((before ++ separator :: after).intercalate texts) =
      (texts.map trim).filter fun piece => !piece.isEmpty := by
  induction texts with
  | nil => simp [split, cut]
  | cons text texts ih =>
      have first := alone text List.mem_cons_self
      cases texts with
      | nil => rw [List.intercalate_singleton, split_of_isWhole first.whole, List.map_singleton]
      | cons next texts =>
          have settled : Scan.start.walk (text ++ before) = .start := by
            rw [Scan.walk_append, first.settled, Scan.walk_blank blankBefore]
          have shape : (before ++ separator :: after).intercalate (text :: next :: texts) =
              (text ++ before) ++ separator ::
                (after ++ (before ++ separator :: after).intercalate (next :: texts)) := by
            rw [List.intercalate_cons_cons]
            simp
          rw [shape, split_append_separator ordinary settled, split_append_blank unblank blankBefore,
            split_blank_append unblank blankAfter, split_of_isWhole first.whole,
            ih fun other member => alone other (List.mem_cons_of_mem _ member), ← List.filter_append,
            ← List.map_singleton, ← List.map_append, List.singleton_append]

/-- Nothing is lost where trimming leaves the texts as they are and none of them is empty. -/
theorem split_intercalate_of_trimmed (ordinary : isOrdinary separator = true)
    (unblank : isBlank separator = false) {before after : List Char} (blankBefore : AllBlank before)
    (blankAfter : AllBlank after) {texts : List (List Char)}
    (alone : ∀ text ∈ texts, StandsAlone separator text)
    (trimmed : ∀ text ∈ texts, Trimmed text ∧ text ≠ []) :
    split separator ((before ++ separator :: after).intercalate texts) = texts := by
  rw [split_intercalate_of_standsAlone ordinary unblank blankBefore blankAfter alone,
    List.map_congr_left fun text member => (trimmed text member).1.trim_eq, List.map_id',
    List.filter_eq_self]
  intro text member
  simp [(trimmed text member).2]

theorem split_intercalate (ordinary : isOrdinary separator = true) (unblank : isBlank separator = false)
    {before after : List Char} (blankBefore : AllBlank before) (blankAfter : AllBlank after)
    {texts : List (List Char)} (pieces : ∀ text ∈ texts, Piece separator text) :
    split separator ((before ++ separator :: after).intercalate texts) = texts :=
  split_intercalate_of_trimmed ordinary unblank blankBefore blankAfter
    (fun text member => (pieces text member).standsAlone)
    (fun text member => ⟨(pieces text member).trimmed, (pieces text member).nonempty⟩)

theorem closed_intercalate {joint : List Char} (closedJoint : Closed joint) {texts : List (List Char)}
    (closed : ∀ text ∈ texts, Closed text) : Closed (joint.intercalate texts) := by
  induction texts with
  | nil => exact .nil
  | cons text texts ih =>
      have first := closed text List.mem_cons_self
      have others := ih fun other member => closed other (List.mem_cons_of_mem _ member)
      cases texts with
      | nil => rwa [List.intercalate_singleton]
      | cons next texts =>
          rw [List.intercalate_cons_cons]
          exact (first.append closedJoint).append others

/-- Two pieces with characters between them that no scan reacts to. -/
theorem Piece.joined {left right : List Char} (first : Piece separator left) (middle : List Char)
    (ordinary : ∀ c ∈ middle, isOrdinary c = true) (absent : separator ∉ middle)
    (second : Piece separator right) : Piece separator (left ++ (middle ++ right)) where
  closed := first.closed.append ((closed_of_ordinary ordinary).append second.closed)
  whole := first.closed.isWhole_append first.whole
    ((closed_of_ordinary ordinary).isWhole_append (isWhole_of_not_mem absent) second.whole)
  trimmed := by
    constructor
    · intro c member
      rw [List.head?_append_of_ne_nil _ first.nonempty] at member
      exact first.trimmed.first c member
    · intro c member
      rw [List.getLast?_append_of_ne_nil _ (by simp [second.nonempty]),
        List.getLast?_append_of_ne_nil _ second.nonempty] at member
      exact second.trimmed.last c member
  nonempty := by simp [first.nonempty]

/-! ## Pieces in brackets and quotes -/

theorem trimmed_between {first last : Char} (firstUnblank : isBlank first = false)
    (lastUnblank : isBlank last = false) (inner : List Char) :
    Trimmed (first :: (inner ++ [last])) := by
  constructor
  · rintro c ⟨⟩
    exact firstUnblank
  · intro c member
    rw [← List.cons_append, List.getLast?_concat] at member
    cases member
    exact lastUnblank

theorem Piece.bracketed (ordinary : isOrdinary separator = true) {opening closing : Char}
    (opens : isOpening opening = true) (closes : isClosing closing = true) (closed : Closed text) :
    Piece separator (opening :: (text ++ [closing])) where
  closed := closed.bracketed opens closes
  whole := isWhole_bracketed ordinary opens closed
  trimmed := trimmed_between (isBlank_of_mem_marks (mem_marks_of_isOpening opens))
    (isBlank_of_mem_marks (mem_marks_of_isClosing closes)) text
  nonempty := List.cons_ne_nil _ _

theorem trimmed_quoted (content : List Char) : Trimmed (quoted content) := by
  have unblank := isBlank_of_mem_marks (mem_marks_of_isQuote (isQuote_quoteFor content))
  exact trimmed_between unblank unblank content

theorem Piece.quoted (ordinary : isOrdinary separator = true) {content : List Char}
    (quotable : IsQuotable content) : Piece separator (quoted content) where
  closed := closed_quoted (isQuote_quoteFor content) (staysQuoted_quoteFor quotable)
  whole := isWhole_quoted ordinary (isQuote_quoteFor content) (staysQuoted_quoteFor quotable)
  trimmed := trimmed_quoted content
  nonempty := List.cons_ne_nil _ _

theorem isOneToken_iff {scan : Scan} {text : List Char} : isOneToken scan text = true ↔
    (scan.walk text).settled = true ∧ isWhole ',' scan text = true ∧ isWhole '|' scan text = true := by
  induction text generalizing scan with
  | nil => simp [isOneToken, isWhole]
  | cons c text ih =>
      simp only [isOneToken, isWhole, Scan.walk_cons, Bool.and_eq_true, Bool.not_eq_true',
        Bool.and_eq_false_iff, Bool.or_eq_false_iff, ih]
      cases scan.settled <;> simp [and_assoc, and_left_comm]

/-- A string that a quote makes one token, for commas and for bars, stands alone as it is written, though
perhaps with the other quote. -/
theorem standsAlone_quoted {quote : Char} (isQuote : isQuote quote = true) {content : List Char}
    (alone : StandsAlone ',' (quote :: (content ++ [quote])))
    (barless : isWhole '|' .start (quote :: (content ++ [quote])) = true) :
    StandsAlone ',' (Text.quoted content) := by
  have chosen := isQuote_quoteFor content
  rcases quoteFor_cases content with stays | readsBack | never
  · exact ⟨(closed_quoted chosen stays).settled, isWhole_quoted rfl chosen stays⟩
  · obtain ⟨settled, whole, -⟩ := isOneToken_iff.mp readsBack
    exact ⟨Scan.settled_iff.mp settled, whole⟩
  · have readsBack : readsBackQuoted quote content = true :=
      isOneToken_iff.mpr ⟨Scan.settled_iff.mpr alone.settled, alone.whole, barless⟩
    simp [never quote isQuote] at readsBack

/-! ## Plain pieces -/

theorem Piece.plain (other : isPlain separator = false) (plain : ∀ c ∈ text, isPlain c = true)
    (nonempty : text ≠ []) : Piece separator text where
  closed := closed_of_ordinary fun c member => isOrdinary_of_isPlain (plain c member)
  whole := isWhole_of_not_mem fun member => by simp [plain separator member] at other
  trimmed := trimmed_of_unblank fun c member => isBlank_of_isPlain (plain c member)
  nonempty := nonempty

end Pieces

end PipeQuery.Text
