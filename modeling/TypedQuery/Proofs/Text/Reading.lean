import TypedQuery.Proofs.Text.Numeral
import TypedQuery.Text.Reader

/-! Readers of the start of a text. A reader made of others reads what they read one after the other, and what
reads digits takes a numeral off the text.
-/

namespace TypedQuery.Text.Reader

variable {α β : Type} {text rest digits : List Char} {count most : Nat}

/-- What follows a reader goes on with what it read, from where it stopped. -/
theorem bind_of_read {reader : Reader α} {value : α} (read : reader text = some (value, rest))
    (next : α → Reader β)
    : (reader >>= next) text = next value rest := by
  simp only [bind, StateT.bind, read, Option.bind_some]

theorem bind_eq_some_iff {reader : Reader α} {next : α → Reader β} {result : β × List Char}
    : (reader >>= next) text = some result
      ↔ ∃ value left, reader text = some (value, left) ∧ next value left = some result := by
  simp only [bind, StateT.bind, Option.bind_eq_some_iff, Prod.exists]

theorem pure_eq_some_iff {value : α} {result : α × List Char}
    : (pure value : Reader α) text = some result ↔ (value, text) = result := by
  have reads : (pure value : Reader α) text = some (value, text) := rfl
  rw [reads, Option.some.injEq]

theorem character_cons (mark : Char) (text : List Char)
    : character mark (mark :: text) = some ((), text) := by
  simp [character]

theorem character_eq_some_iff {wanted : Char} {left : Unit × List Char}
    : character wanted text = some left ↔ text = wanted :: left.2 := by
  cases text with
  | nil => simp [character]
  | cons first rest =>
      simp only [character, Option.ite_none_right_eq_some, Option.some.injEq, List.cons.injEq]
      exact and_congr_right fun _ => ⟨fun same => congrArg Prod.snd same, fun same => Prod.ext rfl same⟩

theorem whole_eq_some_iff {reader : Reader α} {value : α}
    : whole reader text = some value ↔ reader text = some (value, []) := by
  unfold whole StateT.run
  split
  · next found read => simp [read]
  · next other => exact ⟨nofun, fun read => absurd read (other value)⟩

-----------------------------------------------------------------------------------------
-- Digits at the start of a text
-----------------------------------------------------------------------------------------

/-- Digits are taken up to the greatest number of them, and up to the first character that is none. -/
theorem digitsUpTo_append (room : 0 < most) (numeral : Numeral digits count)
    (stops : digits.length < most → ∀ character ∈ rest.head?, character.isDigit = false)
    : digitsUpTo most (digits ++ rest) = some (digits.take most, digits.drop most ++ rest) := by
  have numeric : ∀ character ∈ digits.take most, character.isDigit = true :=
    fun character member => numeral.numeric character (List.mem_of_mem_take member)
  have none_further : (rest.take (most - digits.length)).takeWhile Char.isDigit = [] := by
    rcases Nat.lt_or_ge digits.length most with few | full
    · cases rest with
      | nil => rw [List.take_nil, List.takeWhile_nil]
      | cons character rest =>
          obtain ⟨left, further⟩ := Nat.exists_eq_add_of_lt few
          have stop : ¬ character.isDigit = true := by simp [stops few character rfl]
          have some_left : most - digits.length = left + 1 := by omega
          rw [some_left, List.take_succ_cons, List.takeWhile_cons_of_neg stop]
    · rw [Nat.sub_eq_zero_of_le full, List.take_zero, List.takeWhile_nil]
  have taken : ((digits ++ rest).take most).takeWhile Char.isDigit = digits.take most := by
    rw [List.take_append, List.takeWhile_append_of_pos numeric, none_further, List.append_nil]
  have some_taken : digits.take most ≠ [] := by
    simp [List.take_eq_nil_iff, numeral.filled, Nat.ne_of_gt room]
  have left : (digits ++ rest).drop (digits.take most).length = digits.drop most ++ rest := by
    rw [List.length_take, List.drop_append_of_le_length (Nat.min_le_right _ _)]
    rcases Nat.le_total most digits.length with full | few
    · rw [Nat.min_eq_left full]
    · rw [Nat.min_eq_right few, List.drop_length, List.drop_eq_nil_of_le few]
  simp only [digitsUpTo, taken, left, List.isEmpty_eq_false_iff.mpr some_taken, Bool.false_eq_true,
    if_false]

/-- A numeral that is not too long is taken whole. -/
theorem digitsUpTo_numeral (numeral : Numeral digits count) (fits : digits.length ≤ most)
    (stops : digits.length < most → ∀ character ∈ rest.head?, character.isDigit = false)
    : digitsUpTo most (digits ++ rest) = some (digits, rest) := by
  have room : 0 < most := Nat.lt_of_lt_of_le (List.length_pos_iff.mpr numeral.filled) fits
  rw [digitsUpTo_append room numeral stops, List.take_of_length_le fits, List.drop_eq_nil_of_le fits,
    List.nil_append]

/-- Only numerals are taken. -/
theorem numeral_of_digitsUpTo (read : digitsUpTo most text = some (digits, rest))
    : text = digits ++ rest ∧ Numeral digits (ofDigits digits) := by
  simp only [digitsUpTo, Option.ite_none_left_eq_some, Option.some.injEq, Prod.mk.injEq] at read
  obtain ⟨filled, rfl, rfl⟩ := read
  have start : (text.take most).takeWhile Char.isDigit <+: text :=
    (List.takeWhile_prefix _).trans (List.take_prefix _ _)
  exact ⟨(List.prefix_iff_eq_append.mp start).symm, by simpa using filled,
    fun _ => List.mem_takeWhile_imp, (ofDigits_eq_places _).symm⟩

end TypedQuery.Text.Reader
