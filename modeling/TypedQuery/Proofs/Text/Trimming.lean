import Mathlib.Data.List.DropRight
import TypedQuery.Text.Blank
import TypedQuery.Text.Letters

/-! Texts without the white space around them. Trimming goes with any change of characters that keeps
white space apart from the rest, and takes nothing from a text that is solid, such as a decimal number.
-/

namespace TypedQuery.Text

-----------------------------------------------------------------------------------------
-- White space
-----------------------------------------------------------------------------------------

theorem trim_eq (text : List Char) : trim text = (trimStart text).rdropWhile isBlank :=
  rfl

/-- A text without white space is kept. -/
theorem trim_of_solid {text : List Char} (solid : ∀ character ∈ text, isBlank character = false)
    : trim text = text := by
  have kept {text : List Char} (solid : ∀ character ∈ text, isBlank character = false)
      : trimStart text = text := by
    cases text with
    | nil => rfl
    | cons first rest => exact trimStart_of_not_blank (solid first List.mem_cons_self)
  have reversed : ∀ character ∈ text.reverse, isBlank character = false := by simpa using solid
  rw [trim, kept solid, kept reversed, List.reverse_reverse]

/-- What is left of a text has no white space around it: it starts as the text does after its white
space. -/
theorem trim_trim (text : List Char) : trim (trim text) = trim text := by
  have start : trimStart (trim text) = trim text := by
    have begins : trim text <+: trimStart text := List.rdropWhile_prefix isBlank _
    rw [trimStart, List.dropWhile_eq_self_iff]
    intro some_left
    rw [begins.getElem some_left]
    exact List.dropWhile_eq_self_iff.mp (List.dropWhile_idempotent isBlank text) _
  rw [trim_eq (trim text), start, trim_eq text, List.rdropWhile_idempotent]

/-- A change of characters that tells white space from the rest as before can be made after trimming. -/
theorem trim_map {change : Char → Char}
    (blank : ∀ character, isBlank (change character) = isBlank character) (text : List Char)
    : trim (text.map change) = (trim text).map change := by
  have start (text : List Char) : trimStart (text.map change) = (trimStart text).map change := by
    have alike : isBlank ∘ change = isBlank := funext blank
    rw [trimStart, List.dropWhile_map, alike]
    rfl
  rw [trim, start, ← List.map_reverse, start, ← List.map_reverse]
  rfl

/-- The text stands in the raw one with nothing around it but white space. -/
def Framed (raw text : List Char) : Prop :=
  ∃ before after, raw = before ++ text ++ after
    ∧ (∀ character ∈ before, isBlank character = true)
    ∧ ∀ character ∈ after, isBlank character = true

/-- What trimming leaves stands in the text with white space around it. -/
theorem framed_trim (raw : List Char) : Framed raw (trim raw) := by
  refine ⟨raw.takeWhile isBlank, (trimStart raw).rtakeWhile isBlank, ?_, ?_, ?_⟩
  · rw [trim_eq, List.append_assoc, List.rdropWhile_append_rtakeWhile]
    exact (List.takeWhile_append_dropWhile).symm
  · exact fun _ => List.mem_takeWhile_imp
  · exact fun _ => List.mem_rtakeWhile_imp

/-- Trimming takes all white space around a text. -/
theorem trim_of_framed {raw text : List Char} (framed : Framed raw text) : trim raw = trim text := by
  obtain ⟨before, after, rfl, blankBefore, blankAfter⟩ := framed
  have start : trimStart (before ++ text ++ after) = trimStart (text ++ after) := by
    rw [trimStart, List.append_assoc, List.dropWhile_append_of_pos blankBefore]
    rfl
  have cut (rest : List Char) : (rest ++ after).rdropWhile isBlank = rest.rdropWhile isBlank := by
    have blank : ∀ character ∈ after.reverse, isBlank character = true := by simpa using blankAfter
    rw [List.rdropWhile, List.reverse_append, List.dropWhile_append_of_pos blank]
    rfl
  rw [trim_eq, trim_eq, start, trimStart, List.dropWhile_append]
  split
  · next empty =>
    have none_left : after.dropWhile isBlank = [] := List.dropWhile_eq_nil_iff.mpr blankAfter
    rw [List.isEmpty_iff] at empty
    rw [trimStart, empty, none_left]
  · exact cut _

-----------------------------------------------------------------------------------------
-- Texts without white space around them
-----------------------------------------------------------------------------------------

/-- A text with other characters than white space at its start and at its end. -/
structure Trimmed (text : List Char) : Prop where
  filled : text ≠ []
  start : trimStart text = text
  finish : trimStart text.reverse = text.reverse

namespace Trimmed

variable {text rest raw first last : List Char}

theorem of_solid (filled : text ≠ []) (solid : ∀ character ∈ text, isBlank character = false)
    : Trimmed text where
  filled := filled
  start := List.dropWhile_eq_self_iff.mpr fun _ => by simp [solid]
  finish := List.dropWhile_eq_self_iff.mpr fun _ => by simp [solid]

theorem reverse (trimmed : Trimmed text) : Trimmed text.reverse where
  filled := by simp [trimmed.filled]
  start := trimmed.finish
  finish := by rw [List.reverse_reverse, trimmed.start]

theorem trimStart_append (trimmed : Trimmed text) (rest : List Char)
    : trimStart (text ++ rest) = text ++ rest := by
  have kept : text.dropWhile isBlank = text := trimmed.start
  rw [trimStart, List.dropWhile_append, kept, if_neg (by simp [trimmed.filled])]

/-- What stands between such texts does not matter. -/
theorem between (start : Trimmed first) (finish : Trimmed last) (middle : List Char)
    : Trimmed (first ++ (middle ++ last)) where
  filled := by simp [start.filled]
  start := start.trimStart_append _
  finish := by
    simp only [List.reverse_append, List.append_assoc]
    exact finish.reverse.trimStart_append _

/-- Trimming keeps such a text and the start of what follows it. -/
theorem trim_append (trimmed : Trimmed text) (rest : List Char)
    : ∃ left, left <+: rest ∧ trim (text ++ rest) = text ++ left := by
  refine ⟨rest.rdropWhile isBlank, List.rdropWhile_prefix isBlank rest, ?_⟩
  have kept : text.reverse.dropWhile isBlank = text.reverse := trimmed.finish
  rw [trim_eq, trimmed.trimStart_append, List.rdropWhile, List.reverse_append, List.dropWhile_append]
  split
  · next empty =>
    rw [List.isEmpty_iff] at empty
    rw [List.rdropWhile, empty, kept]
    simp
  · rw [List.reverse_append, List.reverse_reverse]
    rfl

/-- Trimming leaves such a text of one with white space around it. -/
theorem trim_of_framed (trimmed : Trimmed text) (framed : Framed raw text) : trim raw = text := by
  rw [Text.trim_of_framed framed, trim, trimmed.start, trimmed.finish, List.reverse_reverse]

end Trimmed

-----------------------------------------------------------------------------------------
-- Names up to case
-----------------------------------------------------------------------------------------

/-- No letter is white space, in either case. -/
theorem isBlank_toLower (character : Char) : isBlank character.toLower = isBlank character := by
  unfold Char.toLower
  split
  · next upper =>
    have low : 65 ≤ character.val.toNat := upper.1
    have high : character.val.toNat ≤ 90 := upper.2
    have shifted : (character.val + ('a'.val - 'A'.val)).toNat = character.val.toNat + 32 := by
      rw [UInt32.toNat_add]
      exact Nat.mod_eq_of_lt (show character.val.toNat + 32 < 4294967296 by omega)
    have solid {code : UInt32} (valid : code.isValidChar) (above : 32 < code.toNat)
        (below : code.toNat < 133)
        : isBlank ⟨code, valid⟩ = false :=
      not_blank_of_visible above below
    exact (solid _ (by omega) (by omega)).trans (solid character.valid (by omega) (by omega)).symm
  · rfl

theorem lowerLetters_trim (text : List Char) : lowerLetters (trim text) = trim (lowerLetters text) :=
  (trim_map isBlank_toLower text).symm

end TypedQuery.Text
