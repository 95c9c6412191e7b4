/-! Texts compared up to the case of the letters A to Z. All other characters, accented letters
included, count as they are. -/

namespace TypedQuery.Text

/-- The letters A to Z in lower case, all other characters as they are. -/
def lowerLetters (text : List Char) : List Char :=
  text.map Char.toLower

/-- The texts are equal up to the case of the letters A to Z. -/
def sameLetters (left right : String) : Bool :=
  lowerLetters left.toList == lowerLetters right.toList

theorem sameLetters_refl (text : String)
    : sameLetters text text = true := by
  simp [sameLetters]

theorem sameLetters_symm (left right : String)
    : sameLetters left right = sameLetters right left := by
  rw [Bool.eq_iff_iff, sameLetters, sameLetters, beq_iff_eq, beq_iff_eq]
  exact eq_comm

/-- Texts that are equal to a third one up to the case of letters are so to each other. -/
theorem sameLetters_of_common {left right other : String} (first : sameLetters left other = true)
    (second : sameLetters right other = true)
    : sameLetters left right = true := by
  rw [sameLetters, beq_iff_eq] at first second ⊢
  rw [first, second]

/-- What is no letter is the lower case of itself only. -/
theorem toLower_eq_iff {mark character : Char} (plain : mark.isAlpha = false)
    : character.toLower = mark ↔ character = mark := by
  unfold Char.isAlpha Char.isUpper Char.isLower at plain
  simp only [Bool.or_eq_false_iff, Bool.and_eq_false_iff, decide_eq_false_iff_not] at plain
  obtain ⟨notUpper, notLower⟩ := plain
  unfold Char.toLower
  split
  · grind
  · rfl

/-- Texts that are equal up to the case of letters have the same other characters. -/
theorem mem_of_sameLetters {left right : String} {mark : Char} (plain : mark.isAlpha = false)
    (same : sameLetters left right = true) (member : mark ∈ right.toList)
    : mark ∈ left.toList := by
  have lowered : mark ∈ lowerLetters right.toList :=
    List.mem_map.mpr ⟨mark, member, (toLower_eq_iff plain).mpr rfl⟩
  rw [← beq_iff_eq.mp same] at lowered
  obtain ⟨character, among, lower⟩ := List.mem_map.mp lowered
  exact (toLower_eq_iff plain).mp lower ▸ among

end TypedQuery.Text
