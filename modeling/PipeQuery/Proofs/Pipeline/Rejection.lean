import PipeQuery.Proofs.Argument.Rendering
import PipeQuery.Proofs.Pipeline.StepEnd

/-!
# What an error quotes

An expression is rejected for the first of its steps that is no call. The error quotes the text at fault
as it stands in that step: the step as a whole, or the entry of a map that has no colon. Nothing but such
an entry can go wrong inside of a value, however deep the entry lies.
-/

set_option autoImplicit false

namespace PipeQuery

open Text

/-! ## Excerpts -/

/-- The excerpt stands in the text in one run. It is not empty and has no blanks at its ends. -/
structure Text.IsExcerpt (excerpt text : List Char) : Prop where
  nonempty : excerpt ≠ []
  trimmed : Trimmed excerpt
  inside : excerpt <:+: text

theorem Text.IsExcerpt.mono {excerpt text whole : List Char} (quoted : IsExcerpt excerpt text)
    (inside : text <:+: whole) : IsExcerpt excerpt whole :=
  ⟨quoted.nonempty, quoted.trimmed, quoted.inside.trans inside⟩

theorem Text.isExcerpt_of_mem_split {separator : Char} {text piece : List Char}
    (member : piece ∈ split separator text) : IsExcerpt piece text := by
  obtain ⟨trimmed, nonempty⟩ := trimmed_of_mem_split member
  exact ⟨nonempty, trimmed, infix_of_mem_split member⟩

/-- The entry stands between the braces of a map in the text, set off by commas. -/
def Text.IsEntry (entry text : List Char) : Prop :=
  ∃ inner, '{' :: (inner ++ ['}']) <:+: text ∧ entry ∈ split ',' inner

theorem Text.IsEntry.isExcerpt {entry text : List Char} (set : IsEntry entry text) :
    IsExcerpt entry text := by
  obtain ⟨inner, inside, member⟩ := set
  exact (isExcerpt_of_mem_split member).mono (.trans ⟨['{'], ['}'], rfl⟩ inside)

theorem Text.IsEntry.mono {entry text whole : List Char} (set : IsEntry entry text)
    (inside : text <:+: whole) : IsEntry entry whole := by
  obtain ⟨inner, within, member⟩ := set
  exact ⟨inner, within.trans inside, member⟩

/-- The error quotes an entry of a map in the text that has no colon. -/
inductive ReadError.QuotesEntry (text : List Char) : ReadError → Prop where
  | entry {entry : String} : ':' ∉ entry.toList → IsExcerpt entry.toList text → IsEntry entry.toList text →
      QuotesEntry text (.entryWithoutColon entry)

theorem ReadError.QuotesEntry.mono {text whole : List Char} {error : ReadError}
    (quotes : error.QuotesEntry text) (inside : text <:+: whole) : error.QuotesEntry whole := by
  cases quotes with
  | entry colonless excerpt set => exact .entry colonless (excerpt.mono inside) (set.mono inside)

/-- The error quotes the step as a whole, or an entry of a map in it that has no colon. -/
inductive ReadError.QuotesStep (step : List Char) : ReadError → Prop where
  | step : QuotesStep step (.malformedStep (String.ofList step))
  | entry {error : ReadError} : error.QuotesEntry step → QuotesStep step error

/-! ## Values -/

namespace Argument

variable {token inner text : List Char} {error : ReadError}

theorem colon_not_mem_of_splitAtColon?_eq_none (whole : splitAtColon? text = none) : ':' ∉ text := by
  unfold splitAtColon? at whole
  split at whole
  next empty =>
    intro member
    have different := List.dropWhile_eq_nil_iff.mp empty ':' member
    simp at different
  next => cases whole

/-- Only lists and maps can go wrong. -/
theorem ofToken_eq_error_cases (failed : ofToken token = .error error) :
    (∃ inner, enclosed? '[' ']' (trim token) = some inner ∧ itemsOf inner = .error error) ∨
      ∃ inner, enclosed? '{' '}' (trim token) = some inner ∧ entriesOf inner = .error error := by
  cases atom : ofAtom? (trim token) with
  | some value => cases (ofToken_of_atom atom).symm.trans failed
  | none =>
  cases inList : enclosed? '[' ']' (trim token) with
  | some inner =>
      rw [ofToken_of_list atom inList] at failed
      exact .inl ⟨inner, rfl, map_eq_error_iff.mp failed⟩
  | none =>
  cases inMap : enclosed? '{' '}' (trim token) with
  | some inner =>
      rw [ofToken_of_map atom inList inMap] at failed
      exact .inr ⟨inner, rfl, map_eq_error_iff.mp failed⟩
  | none => cases (ofToken_of_bare atom inList inMap).symm.trans failed

/-- An entry goes wrong for want of a colon, or as its value does. -/
theorem entryOf_eq_error_cases (failed : entryOf text = .error error) :
    (':' ∉ text ∧ error = .entryWithoutColon (String.ofList text)) ∨
      ∃ key token, text = key ++ ':' :: token ∧ ofToken token = .error error := by
  unfold entryOf at failed
  split at failed
  next whole =>
    cases failed
    exact .inl ⟨colon_not_mem_of_splitAtColon?_eq_none whole, rfl⟩
  next key token parts =>
    exact .inr ⟨key, token, eq_of_splitAtColon? parts, map_eq_error_iff.mp failed⟩

section Parts

variable (shorter : ∀ token error, token.length ≤ inner.length → ofToken token = .error error →
  error.QuotesEntry token)

include shorter

theorem quotesEntry_of_itemsOf (failed : itemsOf inner = .error error) : error.QuotesEntry inner := by
  rw [itemsOf_eq_mapM] at failed
  obtain ⟨before, piece, after, pieces, -, unread⟩ := mapM_eq_error_iff.mp failed
  have member : piece ∈ split ',' inner := pieces ▸ by simp
  exact (shorter piece error (length_le_of_mem_split member) unread).mono (infix_of_mem_split member)

theorem quotesEntry_of_entriesOf (failed : entriesOf inner = .error error) :
    error.QuotesEntry ('{' :: (inner ++ ['}'])) := by
  rw [entriesOf_eq_mapM] at failed
  obtain ⟨before, piece, after, pieces, -, unread⟩ := mapM_eq_error_iff.mp failed
  have member : piece ∈ split ',' inner := pieces ▸ by simp
  have within : piece <:+: inner := infix_of_mem_split member
  rcases entryOf_eq_error_cases unread with ⟨colonless, rfl⟩ | ⟨key, token, rfl, unreadValue⟩
  · have set : IsEntry (String.ofList piece).toList ('{' :: (inner ++ ['}'])) := by
      rw [String.toList_ofList]
      exact ⟨inner, List.infix_rfl, member⟩
    exact .entry (by rwa [String.toList_ofList]) set.isExcerpt set
  · have value : token <:+: inner := .trans ⟨key ++ [':'], [], by simp⟩ within
    exact (shorter token error value.length_le unreadValue).mono (value.trans ⟨['{'], ['}'], rfl⟩)

end Parts

/-- A value cannot be read only where an entry of a map in it has no colon, and the error quotes the
entry. -/
theorem quotesEntry_of_ofToken (failed : ofToken token = .error error) : error.QuotesEntry token := by
  -- The values inside of a list or a map stand in tokens that are shorter by the brackets.
  induction bound : token.length using Nat.strong_induction_on generalizing token error with
  | _ bound ih =>
      subst bound
      have shorter (inner : List Char) (less : inner.length < token.length) (other : List Char)
          (error : ReadError) (short : other.length ≤ inner.length) (unread : ofToken other = .error error) :
          error.QuotesEntry other :=
        ih other.length (Nat.lt_of_le_of_lt short less) unread rfl
      rcases ofToken_eq_error_cases failed with ⟨inner, enclosed, failed⟩ | ⟨inner, enclosed, failed⟩
      · have quotes := quotesEntry_of_itemsOf (shorter inner (length_lt_of_enclosed?_trim enclosed)) failed
        exact quotes.mono ((infix_of_enclosed? enclosed).trans (infix_trim token))
      · have quotes := quotesEntry_of_entriesOf (shorter inner (length_lt_of_enclosed?_trim enclosed)) failed
        exact quotes.mono (eq_of_enclosed? enclosed ▸ infix_trim token)

end Argument

/-! ## Steps -/

theorem Call.quotesStep_of_ofStep {step : List Char} {error : ReadError} (trimmed : trim step = step)
    (failed : Call.ofStep step = .error error) : error.QuotesStep step := by
  unfold Call.ofStep at failed
  simp only [trimmed] at failed
  split at failed
  · cases failed
    exact .step
  split at failed
  next name inner found =>
    obtain ⟨-, blanks, -, shape⟩ := Call.eq_of_application? found
    have within : inner <:+: step := ⟨name ++ (blanks ++ ['(']), [')'], by rw [shape]; simp⟩
    refine .entry (.mono ?_ within)
    exact Argument.quotesEntry_of_itemsOf (fun _ _ _ unread => Argument.quotesEntry_of_ofToken unread)
      (map_eq_error_iff.mp failed)
  next =>
    split at failed
    · cases failed
    · cases failed
      exact .step

/-- An expression is rejected with an error if and only if that is the error of a step that cannot be
read while all steps before it can. The step is an excerpt of the expression, and the error quotes all of
it or an entry of a map in it that has no colon. A single value is rejected for such an entry only. -/
theorem errors_quote_the_first_unreadable_step :
    (∀ (expression : String) (error : ReadError), parsePipeline expression = .error error ↔
      ∃ before step after, stepsOf expression = before ++ step :: after ∧
        (∀ earlier ∈ before, ∃ call, Call.ofStep earlier = .ok call) ∧
        Call.ofStep step = .error error ∧
        IsExcerpt step expression.toList ∧ error.QuotesStep step) ∧
      ∀ (token : String) (error : ReadError), parseArgument token = .error error →
        error.QuotesEntry token.toList := by
  refine ⟨fun expression error => ?_, fun token error failed => Argument.quotesEntry_of_ofToken failed⟩
  rw [parsePipeline_eq_mapM, mapM_eq_error_iff]
  constructor
  · rintro ⟨before, step, after, steps, earlier, unread⟩
    have member : step ∈ split '|' expression.toList := by
      rw [← stepsOf, steps]
      simp
    exact ⟨before, step, after, steps, earlier, unread, isExcerpt_of_mem_split member,
      Call.quotesStep_of_ofStep (trim_eq_of_mem_split member) unread⟩
  · rintro ⟨before, step, after, steps, earlier, unread, -, -⟩
    exact ⟨before, step, after, steps, earlier, unread⟩

theorem errors_quote_an_entry_deep_in_the_second_step :
    let expression := "h | f([1, \x7b oops \x7d]) | g("
    let token := "[1, \x7b oops \x7d]"
    let error := ReadError.entryWithoutColon "oops"
    (parsePipeline expression = .error error ∧
        ∃ before step after, stepsOf expression = before ++ step :: after ∧
          (∀ earlier ∈ before, ∃ call, Call.ofStep earlier = .ok call) ∧
          Call.ofStep step = .error error ∧ IsExcerpt step expression.toList ∧ error.QuotesStep step) ∧
      parseArgument token = .error error ∧ error.QuotesEntry token.toList := by
  intro expression token error
  have steps : stepsOf expression = ["h".toList, "f([1, \x7b oops \x7d])".toList, "g(".toList] := by
    decide +kernel
  have items : split ',' "1, \x7b oops \x7d".toList = ["1".toList, "\x7b oops \x7d".toList] := by
    decide +kernel
  have entries : split ',' " oops ".toList = ["oops".toList] := by decide
  have inMap : enclosed? '{' '}' (trim "\x7b oops \x7d".toList) = some " oops ".toList := by rfl
  have inList : enclosed? '[' ']' (trim token.toList) = some "1, \x7b oops \x7d".toList := by decide
  have application : Call.application? "f([1, \x7b oops \x7d])".toList = some ("f".toList, token.toList) := by
    decide
  have whole : split ',' token.toList = [token.toList] := by decide +kernel
  have number : Argument.ofToken "1".toList = .ok (.number (.signed 1)) := Argument.ofToken_of_atom rfl
  have map : Argument.ofToken "\x7b oops \x7d".toList = .error error := by
    rw [Argument.ofToken_of_map rfl rfl inMap, Argument.entriesOf_eq_mapM, entries]
    rfl
  have list : parseArgument token = .error error := by
    rw [parseArgument, Argument.ofToken_of_list (by decide) inList, Argument.itemsOf_eq_mapM, items]
    simp only [List.mapM_cons, number, map]
    rfl
  have step : Call.ofStep "f([1, \x7b oops \x7d])".toList = .error error := by
    rw [Call.ofStep_eq_map (by decide) (by decide +kernel) application,
      Argument.itemsOf_eq_mapM, whole]
    rw [parseArgument] at list
    simp only [List.mapM_cons, list]
    rfl
  have rejected : parsePipeline expression = .error error := by
    rw [parsePipeline_eq_mapM, steps]
    have first : Call.ofStep "h".toList = .ok ⟨"h", []⟩ := rfl
    simp only [List.mapM_cons, first, step]
    rfl
  exact ⟨⟨rejected, (errors_quote_the_first_unreadable_step.1 expression error).mp rejected⟩, list,
    errors_quote_the_first_unreadable_step.2 token error list⟩

end PipeQuery
