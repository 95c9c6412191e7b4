import TypedQuery.Proofs.Path.Names
import TypedQuery.Text.Letters

/-! Paths and the case of their letters. No letter is a dot or a bracket, so a text in lower case is read as
the path of the text, all of it in lower case.
-/

namespace TypedQuery

namespace Text

/-- The text with its letters A to Z in lower case. -/
def lower (text : String) : String :=
  String.ofList (lowerLetters text.toList)

@[simp] theorem toList_lower (text : String) : (lower text).toList = lowerLetters text.toList :=
  String.toList_ofList

theorem toLower_toLower (character : Char) : character.toLower.toLower = character.toLower := by
  unfold Char.toLower
  grind

theorem sameLetters_lower (left right : String)
    : sameLetters left (lower right) = sameLetters left right := by
  simp only [sameLetters, toList_lower, lowerLetters, List.map_map, Function.comp_def, toLower_toLower]

theorem sameLetters_iff {left right : String}
    : sameLetters left right = true ↔ lower left = lower right := by
  rw [sameLetters, beq_iff_eq, lower, lower, String.ofList_inj]

end Text

open Text

namespace Path

/-- The path in lower case, in its bracket as well. -/
def lower (path : Path) : Path :=
  ⟨path.segments.map Text.lower, path.element.map Text.lower⟩

@[simp] theorem isCollection_lower (path : Path) : path.lower.isCollection = path.isCollection := by
  simp [isCollection, lower]

/-- The pieces between dots are those of the text in lower case. By induction on the text. -/
theorem splitAtDots_lowerLetters (text : List Char)
    : splitAtDots (lowerLetters text) = (splitAtDots text).map lowerLetters := by
  induction text with
  | nil => rfl
  | cons character rest ih =>
      have dot : character.toLower = '.' ↔ character = '.' := toLower_eq_iff rfl
      have step : lowerLetters (character :: rest) = character.toLower :: lowerLetters rest := rfl
      rw [step, splitAtDots, splitAtDots, ih]
      simp only [dot]
      split
      · rfl
      · cases splitAtDots rest <;> rfl

/-- A text in lower case has its bracket at the same place. -/
theorem splitBracket_lowerLetters (text : List Char)
    : splitBracket (lowerLetters text)
      = (splitBracket text).map fun (outer, element) =>
          (lowerLetters outer, element.map lowerLetters) := by
  have opens (character : Char) : character.toLower = '[' ↔ character = '[' := toLower_eq_iff rfl
  have closes (character : Char) : character.toLower = ']' ↔ character = ']' := toLower_eq_iff rfl
  have outside : (· != '[') ∘ Char.toLower = (· != '[') := by
    funext character
    rw [Function.comp_apply, Bool.eq_iff_iff, bne_iff_ne, bne_iff_ne, ne_eq, opens]
  unfold splitBracket lowerLetters
  rw [List.takeWhile_map, List.dropWhile_map, outside]
  dsimp only
  cases text.dropWhile (· != '[') with
  | nil =>
      simp only [List.map_nil, List.contains_eq_mem, List.mem_map, closes, exists_eq_right]
      split <;> rfl
  | cons opening rest =>
      have atEnd : (rest.map Char.toLower).getLast? = some ']' ↔ rest.getLast? = some ']' := by
        simp [List.getLast?_map, closes]
      simp only [List.map_cons, ← List.map_dropLast, List.isEmpty_map, bne_iff_ne, ne_eq, atEnd]
      split
      · rfl
      · split <;> rfl

/-- A text in lower case is read as the path in lower case, or has the same flaw. -/
theorem parse_lower (raw : String) : parse (Text.lower raw) = (parse raw).map lower := by
  have blank (text : List Char) : (lowerLetters text).isEmpty = text.isEmpty := List.isEmpty_map
  unfold parse
  rw [toList_lower, blank, splitBracket_lowerLetters]
  split
  · rfl
  · cases splitBracket raw.toList with
    | error flaw => rfl
    | ok parts =>
        obtain ⟨outer, element⟩ := parts
        simp only [Except.map, splitAtDots_lowerLetters, List.any_map, Function.comp_def, blank]
        split
        · rfl
        · simp [lower, Text.lower, Function.comp_def]

end Path

end TypedQuery
