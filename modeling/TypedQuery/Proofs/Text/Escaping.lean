import Mathlib.Data.List.Infix
import TypedQuery.Proofs.Text.Pattern
import TypedQuery.Text.Substring

/-! Needles written as patterns. A needle with a backslash before each character that has a meaning in
patterns matches the needle alone. With percent signs around it, it matches the texts in which the needle
occurs: at the start, at the end or anywhere, wherever the percent sign leaves room.
-/

namespace TypedQuery.Text

/-- A character that a pattern does not take literally. -/
def hasMeaning (character : Char) : Bool :=
  character == '%' || character == '_' || character == '\\'

/-- The pattern of a needle that is to be taken literally. -/
def literal : List Char → List Char
  | [] => []
  | character :: rest =>
      if hasMeaning character then '\\' :: character :: literal rest
      else character :: literal rest

def escape (needle : String) : String :=
  String.ofList (literal needle.toList)

@[simp] theorem toList_escape (needle : String) : (escape needle).toList = literal needle.toList :=
  String.toList_ofList

-----------------------------------------------------------------------------------------
-- Literal patterns
-----------------------------------------------------------------------------------------

section

variable {needle pattern text : List Char} {character : Char} {language : List Char → Prop}

theorem afterOne_beq_iff
    : AfterOne (· == character) language text ↔ ∃ rest, text = character :: rest ∧ language rest := by
  cases text with
  | nil => simp [AfterOne]
  | cons first others => simp [AfterOne, and_assoc]

/-- A character that is taken literally, with a backslash if it needs one, is matched by itself alone. -/
theorem matches_literal_cons_iff
    : Matches (literal (character :: needle) ++ pattern) text
      ↔ ∃ rest, text = character :: rest ∧ Matches (literal needle ++ pattern) rest := by
  rw [literal]
  split
  · exact matches_escaped_iff.trans afterOne_beq_iff
  · next plain =>
    simp only [hasMeaning, Bool.or_eq_true, beq_iff_eq, not_or] at plain
    obtain ⟨⟨noRun, noOne⟩, noEscape⟩ := plain
    exact (matches_itself_iff noRun noOne (absurd · noEscape)).trans afterOne_beq_iff

/-- A literal pattern takes the needle off the front of the text and leaves the rest to what follows, by
induction on the needle. -/
theorem matches_literal_append_iff
    : Matches (literal needle ++ pattern) text ↔ ∃ rest, text = needle ++ rest ∧ Matches pattern rest := by
  induction needle generalizing text with
  | nil => simp [literal]
  | cons character others ih =>
      rw [matches_literal_cons_iff]
      simp only [ih, List.cons_append]
      constructor
      · rintro ⟨_, rfl, rest, rfl, matched⟩
        exact ⟨rest, rfl, matched⟩
      · rintro ⟨rest, rfl, matched⟩
        exact ⟨_, rfl, rest, rfl, matched⟩

/-- Without percent signs around it, the needle is all of the text. -/
theorem matches_literal_iff : Matches (literal needle) text ↔ text = needle := by
  have taken
      : Matches (literal needle ++ []) text ↔ ∃ rest, text = needle ++ rest ∧ Matches [] rest :=
    matches_literal_append_iff
  simpa [matches_nil_iff] using taken

theorem matches_anyRun (text : List Char) : Matches ['%'] text :=
  .anyRun List.nil_suffix .nothing

/-- With a percent sign after it, the needle is a start of the text. -/
theorem matches_literal_percent_iff : Matches (literal needle ++ ['%']) text ↔ needle <+: text := by
  rw [matches_literal_append_iff]
  simp only [matches_anyRun, and_true]
  exact exists_congr fun rest => eq_comm

/-- With a percent sign before it, the needle is an end of the text. -/
theorem matches_percent_literal_iff : Matches ('%' :: literal needle) text ↔ needle <:+ text := by
  rw [matches_percent_iff]
  simp only [matches_literal_iff, exists_eq_right]

/-- With percent signs on both sides, the needle is anywhere in the text: at the start of some end of it. -/
theorem matches_percent_literal_percent_iff
    : Matches ('%' :: (literal needle ++ ['%'])) text ↔ needle <:+: text := by
  rw [matches_percent_iff, List.infix_iff_prefix_suffix]
  simp only [matches_literal_percent_iff, and_comm]

end

-----------------------------------------------------------------------------------------
-- Occurrences
-----------------------------------------------------------------------------------------

/-- The search finds a needle exactly if it is a contiguous part of the text, by induction on the text. -/
theorem occursIn_iff {needle text : List Char} : occursIn needle text = true ↔ needle <:+: text := by
  induction text with
  | nil => rw [occursIn, List.isEmpty_iff, List.infix_nil]
  | cons character rest ih =>
      rw [occursIn, Bool.or_eq_true, ih, List.isPrefixOf_iff_prefix, List.infix_cons_iff]

theorem startsWith_iff {text needle : String}
    : startsWith text needle = true ↔ needle.toList <+: text.toList :=
  List.isPrefixOf_iff_prefix

theorem endsWith_iff {text needle : String}
    : endsWith text needle = true ↔ needle.toList <:+ text.toList :=
  List.isSuffixOf_iff_suffix

theorem contains_iff {text needle : String}
    : contains text needle = true ↔ needle.toList <:+: text.toList :=
  occursIn_iff

end TypedQuery.Text
