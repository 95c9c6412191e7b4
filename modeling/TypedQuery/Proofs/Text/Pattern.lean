import Mathlib.Data.List.Forall2
import TypedQuery.Text.Pattern

/-! Patterns and the texts that they match. Matching keeps a mark for every suffix of the text, and takes
the pattern from its end. The marks tell at each stage which suffixes the rest of the pattern matches, so
the mark of the longest suffix tells whether the whole pattern matches the whole text.
-/

namespace TypedQuery.Text

/-- The texts that a written pattern matches, character by character of the pattern. -/
inductive Matches : (pattern text : List Char) → Prop
  | nothing : Matches [] []
  | anyRun {pattern text suffix} (shorter : suffix <:+ text) (rest : Matches pattern suffix)
    : Matches ('%' :: pattern) text
  | anyOne {pattern text character} (rest : Matches pattern text)
    : Matches ('_' :: pattern) (character :: text)
  | escaped {pattern text character} (rest : Matches pattern text)
    : Matches ('\\' :: character :: pattern) (character :: text)
  | lastBackslash : Matches ['\\'] ['\\']
  | itself {pattern text character} (noRun : character ≠ '%') (noOne : character ≠ '_')
    (noEscape : character ≠ '\\') (rest : Matches pattern text)
    : Matches (character :: pattern) (character :: text)

-----------------------------------------------------------------------------------------
-- Marks of suffixes
-----------------------------------------------------------------------------------------

/-- There is a mark for every suffix of the text, the longest first, and it is set if the suffix is one of
the language. -/
def Marks (language : List Char → Prop) (text : List Char) (marks : List Bool) : Prop :=
  List.Forall₂ (fun suffix mark => mark = true ↔ language suffix) text.tails marks

/-- A text of which the first character passes a test and the others make a text of the language. -/
def AfterOne (test : Char → Bool) (language : List Char → Prop) : List Char → Prop
  | [] => False
  | character :: rest => test character = true ∧ language rest

section

variable {language other : List Char → Prop} {text : List Char} {marks : List Bool}

/-- The first mark is that of the whole text. -/
theorem Marks.headD_iff (told : Marks language text marks)
    : marks.headD false = true ↔ language text := by
  cases text <;> cases told <;> assumption

theorem Marks.congr (same : ∀ suffix, language suffix ↔ other suffix) (told : Marks language text marks)
    : Marks other text marks :=
  told.imp fun suffix _ means => means.trans (same suffix)

/-- By induction on the text. -/
theorem marks_emptySuffixes (text : List Char) : Marks (· = []) text (emptySuffixes text) := by
  induction text with
  | nil => exact .cons (by simp) .nil
  | cons character rest ih => exact .cons (by simp) ih

/-- The marks for one more character in front, by induction on the text. -/
theorem Marks.afterOne (test : Char → Bool) (told : Marks language text marks)
    : Marks (AfterOne test language) text (afterOne test text marks) := by
  induction text generalizing marks with
  | nil => exact .cons (by simp [AfterOne]) .nil
  | cons character rest ih =>
      cases told with
      | cons _ shorter =>
          refine .cons ?_ (ih shorter)
          rw [Bool.and_eq_true, Marks.headD_iff shorter, AfterOne]

/-- The marks for any run of characters in front, by induction on the text. -/
theorem Marks.afterRun (told : Marks language text marks)
    : Marks (fun suffix => ∃ shorter, shorter <:+ suffix ∧ language shorter) text
        (afterRun marks) := by
  induction text generalizing marks with
  | nil =>
      cases told with
      | cons whole none_shorter =>
          cases none_shorter
          exact .cons (by simp [whole, Text.afterRun]) .nil
  | cons character rest ih =>
      cases told with
      | cons whole shorter =>
          refine .cons ?_ (ih shorter)
          -- A suffix of the text is the text itself or a suffix of its rest.
          rw [Bool.or_eq_true, whole, Marks.headD_iff (ih shorter)]
          simp [List.suffix_cons_iff, or_and_right, exists_or]

end

-----------------------------------------------------------------------------------------
-- Patterns
-----------------------------------------------------------------------------------------

section

variable {pattern text : List Char} {character : Char}

theorem matches_nil_iff : Matches [] text ↔ text = [] := by
  constructor
  · intro matched
    cases matched
    rfl
  · rintro rfl
    exact .nothing

theorem matches_percent_iff
    : Matches ('%' :: pattern) text ↔ ∃ suffix, suffix <:+ text ∧ Matches pattern suffix := by
  constructor
  · intro matched
    cases matched with
    | anyRun shorter rest => exact ⟨_, shorter, rest⟩
    | itself noRun => exact absurd rfl noRun
  · rintro ⟨suffix, shorter, rest⟩
    exact .anyRun shorter rest

theorem matches_underscore_iff
    : Matches ('_' :: pattern) text ↔ AfterOne (fun _ => true) (Matches pattern) text := by
  constructor
  · intro matched
    cases matched with
    | anyOne rest => exact ⟨rfl, rest⟩
    | itself _ noOne => exact absurd rfl noOne
  · intro begins
    cases text with
    | nil => exact begins.elim
    | cons first others => exact .anyOne begins.2

theorem matches_escaped_iff
    : Matches ('\\' :: character :: pattern) text
      ↔ AfterOne (· == character) (Matches pattern) text := by
  constructor
  · intro matched
    cases matched with
    | escaped rest => exact ⟨beq_self_eq_true _, rest⟩
    | itself _ _ noEscape => exact absurd rfl noEscape
  · intro begins
    cases text with
    | nil => exact begins.elim
    | cons first others =>
        obtain ⟨same, rest⟩ := begins
        obtain rfl := beq_iff_eq.mp same
        exact .escaped rest

/-- A character that has no meaning of its own stands for itself, and so does a backslash with nothing
after it. -/
theorem matches_itself_iff (noRun : character ≠ '%') (noOne : character ≠ '_')
    (noEscape : character = '\\' → pattern = [])
    : Matches (character :: pattern) text
      ↔ AfterOne (· == character) (Matches pattern) text := by
  constructor
  · intro matched
    cases matched with
    | anyRun => exact absurd rfl noRun
    | anyOne => exact absurd rfl noOne
    | escaped => exact absurd (noEscape rfl) (List.cons_ne_nil _ _)
    | lastBackslash => exact ⟨rfl, .nothing⟩
    | itself _ _ _ rest => exact ⟨beq_self_eq_true _, rest⟩
  · intro begins
    cases text with
    | nil => exact begins.elim
    | cons first others =>
        obtain ⟨same, rest⟩ := begins
        obtain rfl := beq_iff_eq.mp same
        by_cases backslash : first = '\\'
        · obtain rfl := noEscape backslash
          obtain rfl := matches_nil_iff.mp rest
          exact backslash ▸ .lastBackslash
        · exact .itself noRun noOne backslash rest

end

/-- The marks of a pattern are those of the texts that it matches, by induction on the pattern as it is
cut into pieces. -/
theorem marks_matchedSuffixes (pattern text : List Char)
    : Marks (Matches pattern) text (matchedSuffixes text (patternItems pattern)) := by
  induction pattern using patternItems.induct with
  | case1 => exact (marks_emptySuffixes text).congr fun _ => matches_nil_iff.symm
  | case2 rest ih => exact ih.afterRun.congr fun _ => matches_percent_iff.symm
  | case3 rest ih => exact (ih.afterOne _).congr fun _ => matches_underscore_iff.symm
  | case4 escaped rest ih => exact (ih.afterOne _).congr fun _ => matches_escaped_iff.symm
  | case5 character rest noRun noOne noEscape ih =>
      have alone (backslash : character = '\\') : rest = [] := by
        cases rest with
        | nil => rfl
        | cons next others => exact (noEscape next others backslash rfl).elim
      rw [patternItems]
      · exact (ih.afterOne _).congr fun _ => (matches_itself_iff noRun noOne alone).symm
      all_goals assumption

instance (pattern text : List Char) : Decidable (Matches pattern text) :=
  decidable_of_iff _ (marks_matchedSuffixes pattern text).headD_iff

/-- Matching decides whether the whole pattern matches the whole text. -/
theorem matchesPattern_iff (pattern text : String)
    : matchesPattern pattern text = true ↔ Matches pattern.toList text.toList :=
  (marks_matchedSuffixes pattern.toList text.toList).headD_iff

end TypedQuery.Text
