import PipeQuery.Proofs.Text.Closed
import PipeQuery.Text.Quoted

/-!
# Quoted strings read back

A content that a quote does not break stays one string between two such quotes: the whole is closed, no
separator in it is seen, and taking the quotes off gives the content back. The quote that contents are
written with is such a quote whenever there is one.
-/

set_option autoImplicit false

namespace PipeQuery.Text

/-- Read from left to right with a backslash taking the next character as it is, the content has no
quote of the kind, and it does not end on a backslash that takes nothing. -/
def isUnbroken (quote : Char) : List Char → Bool
  | [] => true
  | ['\\'] => false
  | '\\' :: _ :: rest => isUnbroken quote rest
  | c :: rest => c != quote && isUnbroken quote rest

section Quotes

variable {quote : Char} {content : List Char}

theorem Scan.step_inside_backslash (quote : Char) :
    (Scan.inside quote).step '\\' = { Scan.inside quote with escaped := true } := rfl

theorem Scan.step_escaped (quote c : Char) :
    ({ Scan.inside quote with escaped := true } : Scan).step c = .inside quote := rfl

theorem Scan.step_inside {c : Char} (backslash : c ≠ '\\') (other : c ≠ quote) :
    (Scan.inside quote).step c = .inside quote := by
  simp [Scan.step, Scan.inside, backslash, other.symm]

theorem Scan.step_inside_quote (isQuote : isQuote quote = true) :
    (Scan.inside quote).step quote = .start := by
  rcases isQuote_iff.mp isQuote with rfl | rfl <;> rfl

theorem Scan.step_start_quote (isQuote : isQuote quote = true) :
    Scan.start.step quote = .inside quote := by
  rcases isQuote_iff.mp isQuote with rfl | rfl <;> rfl

/-- The scanner keeps a content one string if and only if nothing breaks it. -/
theorem staysQuoted_eq_isUnbroken (isQuote : isQuote quote = true) (content : List Char) :
    staysQuoted quote content = isUnbroken quote content := by
  unfold staysQuoted
  induction content using isUnbroken.induct with
  | case1 => rfl
  | case2 => rfl
  | case3 c rest ih =>
      simp only [leavesOpen, Scan.step_inside_backslash, Scan.step_escaped, ih, isUnbroken]
      rfl
  | case4 c rest notLast notEscape ih =>
      have backslash : c ≠ '\\' := by
        rintro rfl
        cases rest with
        | nil => exact notLast rfl rfl
        | cons d rest => exact notEscape d rest rfl rfl
      have unbroken : isUnbroken quote (c :: rest) = (c != quote && isUnbroken quote rest) :=
        isUnbroken.eq_4 quote c rest notLast notEscape
      by_cases same : c = quote
      · subst same
        rw [unbroken, leavesOpen, Scan.step_inside_quote isQuote]
        simp [Scan.start]
      · rw [unbroken, leavesOpen, Scan.step_inside backslash same, ih]
        simp [same, Scan.inside]

/-! ## Inside of a string -/

theorem Scan.step_of_open {scan : Scan} {c : Char} (opened : scan.quote = some quote)
    (still : (scan.step c).quote.isSome = true) :
    (scan.step c).quote = some quote ∧ (scan.step c).depth = scan.depth := by
  unfold step at still ⊢
  rcases scan with ⟨depth, _, escaped⟩
  subst opened
  cases escaped with
  | true => exact ⟨rfl, rfl⟩
  | false =>
      by_cases backslash : c = '\\'
      · simp [backslash]
      by_cases isQuote : isQuote c = true
      · by_cases same : quote = c <;> simp_all
      · simp_all

/-- As long as a string stays open, the scan keeps its depth and sees no separator. -/
theorem leavesOpen_spec {scan : Scan} (opened : scan.quote = some quote)
    (leaves : leavesOpen scan content = true) :
    scan.walk content = { scan with escaped := false } ∧
      ∀ separator, isWhole separator scan content = true := by
  induction content generalizing scan with
  | nil =>
      simp only [leavesOpen, Bool.not_eq_true'] at leaves
      refine ⟨?_, fun _ => rfl⟩
      rw [← leaves, Scan.walk_nil]
  | cons c content ih =>
      simp only [leavesOpen, Bool.and_eq_true] at leaves
      obtain ⟨stillOpened, sameDepth⟩ := Scan.step_of_open opened leaves.1
      obtain ⟨walk, whole⟩ := ih stillOpened leaves.2
      have unsettled : scan.settled = false := by simp [Scan.settled, opened]
      refine ⟨?_, fun separator => ?_⟩
      · rw [Scan.walk_cons, walk, stillOpened, sameDepth, opened]
      · simp [isWhole, unsettled, whole]

theorem nests_of_leavesOpen {scan : Scan} (opened : scan.quote = some quote) (above : 0 ≤ scan.depth)
    (leaves : leavesOpen scan content = true) : scan.nests content = true := by
  induction content generalizing scan with
  | nil => simpa [Scan.nests] using above
  | cons c content ih =>
      simp only [leavesOpen, Bool.and_eq_true] at leaves
      obtain ⟨stillOpened, sameDepth⟩ := Scan.step_of_open opened leaves.1
      simp [Scan.nests, above, ih stillOpened (by omega) leaves.2]

theorem Scan.step_with_depth {scan : Scan} (opened : scan.quote = some quote) (depth : Int) (c : Char) :
    ({ scan with depth } : Scan).step c = { scan.step c with depth } := by
  obtain ⟨_, _, escaped⟩ := scan
  subst opened
  unfold step
  dsimp only [Option.isSome_some]
  split
  · rfl
  split
  · rfl
  split
  · split <;> rfl
  · rfl

theorem leavesOpen_with_depth {scan : Scan} (opened : scan.quote = some quote) (depth : Int) :
    leavesOpen { scan with depth } content = leavesOpen scan content := by
  induction content generalizing scan with
  | nil => rfl
  | cons c content ih =>
      rw [leavesOpen, leavesOpen, Scan.step_with_depth opened]
      cases still : (scan.step c).quote.isSome with
      | false => rfl
      | true => rw [ih (Scan.step_of_open opened still).1]

/-! ## Strings outside of strings -/

section Outside

variable {scan : Scan}

theorem leavesOpen_of_staysQuoted (unescaped : scan.escaped = false)
    (stays : staysQuoted quote content = true) :
    leavesOpen { scan with quote := some quote } content = true := by
  have inside : ({ scan with quote := some quote } : Scan) = { Scan.inside quote with depth := scan.depth } := by
    simp [Scan.inside, unescaped]
  rw [inside, leavesOpen_with_depth rfl]
  exact stays

variable (quotes : isQuote quote = true) (outside : scan.quote = none) (unescaped : scan.escaped = false)
  (stays : staysQuoted quote content = true)

include quotes outside unescaped stays

theorem walk_quoted : scan.walk (quote :: (content ++ [quote])) = scan := by
  obtain ⟨walk, -⟩ := leavesOpen_spec rfl (leavesOpen_of_staysQuoted unescaped stays)
  rw [Scan.walk_cons, Scan.step_quote quotes unescaped outside, Scan.walk_append, walk, Scan.walk_cons,
    Scan.step_same_quote quotes rfl rfl, Scan.walk_nil]
  simp only [← outside, ← unescaped]

theorem isWhole_quoted_of_outside {separator : Char} (ordinary : isOrdinary separator = true) :
    isWhole separator scan (quote :: (content ++ [quote])) = true := by
  obtain ⟨walk, whole⟩ := leavesOpen_spec rfl (leavesOpen_of_staysQuoted unescaped stays)
  have different : (quote == separator) = false := by
    rw [beq_eq_false_iff_ne]
    rintro rfl
    simp [isOrdinary, quotes] at ordinary
  simp only [isWhole, different, Scan.step_quote quotes unescaped outside, isWhole_append, walk, whole]
  simp [Scan.settled]

end Outside

theorem closed_quoted (isQuote : isQuote quote = true) (stays : staysQuoted quote content = true) :
    Closed (quote :: (content ++ [quote])) where
  settled := walk_quoted isQuote rfl rfl stays
  nested := by
    have walk : (Scan.inside quote).walk content = .inside quote := (leavesOpen_spec rfl stays).1
    have nests : (Scan.inside quote).nests content = true :=
      nests_of_leavesOpen rfl (show (0 : Int) ≤ 0 by decide) stays
    simp only [Scan.nests, Scan.step_start_quote isQuote, Scan.nests_append, nests, walk,
      Scan.step_inside_quote isQuote]
    rfl

theorem isWhole_quoted {separator : Char} (ordinary : isOrdinary separator = true)
    (isQuote : isQuote quote = true) (stays : staysQuoted quote content = true) :
    isWhole separator .start (quote :: (content ++ [quote])) = true :=
  isWhole_quoted_of_outside isQuote rfl rfl stays ordinary

end Quotes

/-! ## The choice of the quote -/

/-- A content that one of the two quotes does not break. -/
def IsQuotable (content : List Char) : Prop :=
  isUnbroken '"' content = true ∨ isUnbroken '\'' content = true

theorem isQuote_quoteFor (content : List Char) : isQuote (quoteFor content) = true := by
  have among {condition : Char → Bool} {quote : Char}
      (found : ['"', '\''].find? condition = some quote) : isQuote quote = true := by
    have member := List.mem_of_find?_eq_some found
    simp only [List.mem_cons, List.not_mem_nil, or_false] at member
    exact isQuote_iff.mpr member
  unfold quoteFor
  dsimp only
  cases stays : ['"', '\''].find? fun quote => staysQuoted quote content with
  | some quote => exact among stays
  | none =>
      cases readsBack : ['"', '\''].find? fun quote => readsBackQuoted quote content with
      | some quote => exact among readsBack
      | none => rfl

theorem staysQuoted_quoteFor {content : List Char} (quotable : IsQuotable content) :
    staysQuoted (quoteFor content) content = true := by
  have found : ∃ quote, (['"', '\''].find? fun quote => staysQuoted quote content) = some quote := by
    apply Option.isSome_iff_exists.mp
    rw [List.find?_isSome]
    rcases quotable with double | single
    · exact ⟨'"', by simp, by rw [staysQuoted_eq_isUnbroken rfl]; exact double⟩
    · exact ⟨'\'', by simp, by rw [staysQuoted_eq_isUnbroken rfl]; exact single⟩
  obtain ⟨quote, found⟩ := found
  have chosen : quoteFor content = quote := by simp only [quoteFor, found, Option.some_or, Option.getD_some]
  rw [chosen]
  exact List.find?_some (p := fun quote => staysQuoted quote content) found

/-- Under the quote that is chosen a content stays one string or reads back as one token, unless it reads
back under no quote. -/
theorem quoteFor_cases (content : List Char) :
    staysQuoted (quoteFor content) content = true ∨ readsBackQuoted (quoteFor content) content = true ∨
      ∀ quote, isQuote quote = true → readsBackQuoted quote content = false := by
  unfold quoteFor
  dsimp only
  cases stays : ['"', '\''].find? fun quote => staysQuoted quote content with
  | some quote => exact .inl (List.find?_some (p := fun quote => staysQuoted quote content) stays)
  | none =>
      cases readsBack : ['"', '\''].find? fun quote => readsBackQuoted quote content with
      | some quote =>
          exact .inr (.inl (List.find?_some (p := fun quote => readsBackQuoted quote content) readsBack))
      | none =>
          refine .inr (.inr fun quote isQuote => ?_)
          rw [List.find?_eq_none] at readsBack
          rcases isQuote_iff.mp isQuote with rfl | rfl
          · simpa using readsBack '"' (by simp)
          · simpa using readsBack '\'' (by simp)

/-! ## Taking quotes and brackets off -/

theorem enclosed?_of_both (opening closing : Char) (inner : List Char) :
    enclosed? opening closing (opening :: (inner ++ [closing])) = some inner := by
  simp [enclosed?]

/-- What is taken off a token is an opening character in front and a closing one at the end. -/
theorem eq_of_enclosed? {opening closing : Char} {token inner : List Char}
    (found : enclosed? opening closing token = some inner) :
    token = opening :: (inner ++ [closing]) := by
  cases token with
  | nil => cases found
  | cons c rest =>
      simp only [enclosed?, Option.ite_none_right_eq_some, Bool.and_eq_true, beq_iff_eq,
        Option.some.injEq] at found
      obtain ⟨⟨rfl, last⟩, rfl⟩ := found
      rw [List.dropLast_append_getLast? closing last]

theorem enclosed?_of_other {opening c : Char} (closing : Char) (rest : List Char) (other : c ≠ opening) :
    enclosed? opening closing (c :: rest) = none := by
  simp [enclosed?, other]

theorem unquote?_of_quote {quote : Char} (isQuote : isQuote quote = true) (content : List Char) :
    unquote? (quote :: (content ++ [quote])) = some content := by
  rcases isQuote_iff.mp isQuote with rfl | rfl
  · rw [unquote?, enclosed?_of_both, Option.some_or]
  · rw [unquote?, enclosed?_of_other _ _ (by decide), enclosed?_of_both, Option.none_or]

theorem unquote?_eq_none {c : Char} (rest : List Char) (other : isQuote c = false) :
    unquote? (c :: rest) = none := by
  have double : c ≠ '"' := by
    rintro rfl
    cases other
  have single : c ≠ '\'' := by
    rintro rfl
    cases other
  rw [unquote?, enclosed?_of_other _ _ double, enclosed?_of_other _ _ single, Option.none_or]

theorem unquote?_quoted (content : List Char) : unquote? (quoted content) = some content :=
  unquote?_of_quote (isQuote_quoteFor content) content

end PipeQuery.Text
