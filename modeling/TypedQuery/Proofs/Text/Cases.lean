import TypedQuery.Text.CaseMapping
import TypedQuery.Text.Uppercase

/-! The other case forms of characters, read off their tables. Tables and sets of characters are compared
as sets of code points, one bit of a number for each. No form has a mark in it that stands between words,
and a form in lower case is not in upper case, unless the character has no other form. The first forms in
the tables are those of the letters A to Z.
-/

namespace TypedQuery.Text

variable {runs : List CaseRun} {expansions : List (Nat × List Nat)} {ranges : List CodeRange}
  {character form : Char} {code : Nat}

-----------------------------------------------------------------------------------------
-- Sets of code points
-----------------------------------------------------------------------------------------

def codeBits (codes : List Nat) : Nat :=
  codes.foldr (fun code bits => 1 <<< code ||| bits) 0

def rangeBits (ranges : List CodeRange) : Nat :=
  ranges.foldr (fun range bits => (1 <<< (range.2 + 1 - range.1) - 1) <<< range.1 ||| bits) 0

theorem testBit_codeBits {codes : List Nat} (member : code ∈ codes)
    : (codeBits codes).testBit code = true := by
  induction codes with
  | nil => cases member
  | cons first rest ih =>
      rw [codeBits, List.foldr_cons, Nat.testBit_or]
      rcases List.mem_cons.mp member with same | later
      · simp [same]
      · rw [← codeBits, ih later, Bool.or_true]

theorem testBit_rangeBits (ranges : List CodeRange) (code : Nat)
    : (rangeBits ranges).testBit code = ranges.any fun range => CodeRange.contains range code := by
  induction ranges with
  | nil => simp [rangeBits]
  | cons range rest ih =>
      rw [rangeBits, List.foldr_cons, Nat.testBit_or, ← rangeBits, ih, List.any_cons]
      congr 1
      rw [Nat.testBit_shiftLeft, Nat.one_shiftLeft, Nat.testBit_two_pow_sub_one, Bool.eq_iff_iff,
        CodeRange.contains]
      simp only [Bool.and_eq_true, decide_eq_true_eq, Nat.ble_eq]
      omega

theorem inRanges_of_subset {others : List CodeRange}
    (among : rangeBits ranges &&& rangeBits others = rangeBits ranges)
    (member : inRanges ranges character = true)
    : inRanges others character = true := by
  have both : (rangeBits ranges &&& rangeBits others).testBit character.toNat = true := by
    rw [among, testBit_rangeBits]
    exact member
  rw [Nat.testBit_and, testBit_rangeBits, testBit_rangeBits] at both
  exact (Bool.and_eq_true_iff.mp both).2

-----------------------------------------------------------------------------------------
-- Forms in the tables
-----------------------------------------------------------------------------------------

namespace CaseRun

/-- The code points that the run is for. -/
def sources (run : CaseRun) : List Nat :=
  (List.range ((run.last - run.first) / run.stride + 1)).map fun index =>
    run.first + index * run.stride

/-- The code points of the forms that the run leads to. -/
def forms (run : CaseRun) : List Nat :=
  run.sources.map fun code : Nat => (code + run.distance).toNat

theorem mem_sources {run : CaseRun} (covered : run.covers code = true) : code ∈ run.sources := by
  simp only [covers, Bool.and_eq_true, Nat.ble_eq, beq_iff_eq] at covered
  obtain ⟨⟨least, greatest⟩, whole⟩ := covered
  have steps := Nat.div_mul_cancel (Nat.dvd_of_mod_eq_zero whole)
  refine List.mem_map.mpr ⟨(code - run.first) / run.stride, List.mem_range.mpr ?_, ?_⟩
  · exact Nat.lt_succ_of_le (Nat.div_le_div_right (Nat.sub_le_sub_right greatest _))
  · rw [steps, Nat.add_sub_cancel' least]

theorem mem_forms {run : CaseRun} (covered : run.covers code = true)
    : (code + run.distance).toNat ∈ run.forms :=
  List.mem_map.mpr ⟨code, mem_sources covered, rfl⟩

end CaseRun

/-- The code points of all forms that the tables list. -/
def formBits (runs : List CaseRun) (expansions : List (Nat × List Nat)) : Nat :=
  runs.foldr (fun run bits => codeBits run.forms ||| bits)
    (codeBits (expansions.flatMap Prod.snd))

theorem testBit_formBits_of_expansion {expansion : Nat × List Nat} (listed : expansion ∈ expansions)
    (among : code ∈ expansion.2)
    : (formBits runs expansions).testBit code = true := by
  induction runs with
  | nil => exact testBit_codeBits (List.mem_flatMap.mpr ⟨expansion, listed, among⟩)
  | cons run rest ih => rw [formBits, List.foldr_cons, Nat.testBit_or, ← formBits, ih, Bool.or_true]

theorem testBit_formBits_of_run {run : CaseRun} (listed : run ∈ runs) (among : code ∈ run.forms)
    : (formBits runs expansions).testBit code = true := by
  induction runs with
  | nil => cases listed
  | cons first rest ih =>
      rw [formBits, List.foldr_cons, Nat.testBit_or, ← formBits]
      rcases List.mem_cons.mp listed with same | later
      · rw [← same, testBit_codeBits among, Bool.true_or]
      · rw [ih later, Bool.or_true]

/-- A form is one of those that the tables list, unless the character has no other form. A code point
that is none of a character would stand for a character of code zero. -/
theorem listed_or_alone (member : form ∈ otherCase runs expansions character)
    : (∃ code, form = Char.ofNat code ∧ (formBits runs expansions).testBit code = true)
      ∨ form = character ∧ otherCase runs expansions character = [character] := by
  have whole := member
  unfold otherCase at member
  dsimp only at member
  split at member
  · next expansion found =>
    obtain ⟨code, among, rfl⟩ := List.mem_map.mp member
    exact .inl ⟨code, rfl,
      testBit_formBits_of_expansion (List.mem_of_find?_eq_some found) among⟩
  · next unexpanded =>
    split at member
    · next run found =>
      obtain rfl := List.mem_singleton.mp member
      have covered : run.covers character.toNat = true := by simpa using List.find?_some found
      exact .inl ⟨_, rfl,
        testBit_formBits_of_run (List.mem_of_find?_eq_some found) (CaseRun.mem_forms covered)⟩
    · next uncovered =>
      obtain rfl := List.mem_singleton.mp member
      exact .inr ⟨rfl, by simp [otherCase, unexpanded, uncovered]⟩

theorem toNat_ofNat_or (code : Nat)
    : (Char.ofNat code).toNat = code ∨ Char.ofNat code = Char.ofNat 0 := by
  by_cases valid : code.isValidChar
  · rw [Char.ofNat, dif_pos valid]
    exact .inl rfl
  · rw [Char.ofNat, dif_neg valid]
    exact .inr rfl

/-- A form in ranges that the tables do not lead to is the character itself, which has no other form. -/
theorem alone_of_inRanges (apart : formBits runs expansions &&& rangeBits ranges = 0)
    (nonzero : inRanges ranges (Char.ofNat 0) = false)
    (member : form ∈ otherCase runs expansions character) (within : inRanges ranges form = true)
    : form = character ∧ otherCase runs expansions character = [character] := by
  rcases listed_or_alone member with ⟨code, rfl, listed⟩ | alone
  · rcases toNat_ofNat_or code with same | zero
    · have shared : (formBits runs expansions &&& rangeBits ranges).testBit code = true := by
        rw [Nat.testBit_and, listed, testBit_rangeBits, Bool.true_and, ← same]
        exact within
      simp [apart] at shared
    · rw [zero, nonzero] at within
      cases within
  · exact alone

-----------------------------------------------------------------------------------------
-- Separators and upper case
-----------------------------------------------------------------------------------------

/-- The marks that stand between words. -/
def separatorRanges : List CodeRange :=
  [(0x2D, 0x2D), (0x5F, 0x5F)]

theorem inRanges_separator (separator : form = '_' ∨ form = '-')
    : inRanges separatorRanges form = true := by
  rcases separator with rfl | rfl <;> decide

theorem inRanges_append {others : List CodeRange}
    : inRanges (ranges ++ others) form = (inRanges ranges form || inRanges others form) :=
  List.any_append

/-- No table leads to a separator, and that of forms in lower case to nothing in upper case either. -/
theorem forms_apart
    : (formBits lowerRuns lowerExpansions &&& rangeBits (separatorRanges ++ uppercaseRanges) = 0
        ∧ inRanges (separatorRanges ++ uppercaseRanges) (Char.ofNat 0) = false)
      ∧ formBits upperRuns upperExpansions &&& rangeBits separatorRanges = 0 := by
  decide +kernel

/-- A form in lower case that is a separator or in upper case is the whole lower case of its character. -/
theorem lowerCase_alone (member : form ∈ lowerCase character)
    (apart : form = '_' ∨ form = '-' ∨ isUppercase form = true)
    : form = character ∧ lowerCase character = [character] := by
  refine alone_of_inRanges forms_apart.1.1 forms_apart.1.2 member ?_
  rw [inRanges_append, Bool.or_eq_true]
  rcases apart with underscore | hyphen | upper
  · exact .inl (inRanges_separator (.inl underscore))
  · exact .inl (inRanges_separator (.inr hyphen))
  · exact .inr upper

/-- A form in upper case that is a separator is the whole upper case of its character. -/
theorem upperCase_alone (member : form ∈ upperCase character) (apart : form = '_' ∨ form = '-')
    : form = character ∧ upperCase character = [character] :=
  alone_of_inRanges forms_apart.2 (by decide) member (inRanges_separator apart)

-----------------------------------------------------------------------------------------
-- Characters below the code point 128
-----------------------------------------------------------------------------------------

/-- For a character below a bound only runs that start below it matter. -/
theorem otherCase_eq_take {bound : Nat} (count : Nat) (small : character.toNat < bound)
    (after : ∀ run ∈ runs.drop count, bound ≤ run.first)
    (expanded : ∀ expansion ∈ expansions, bound ≤ expansion.1)
    : otherCase runs expansions character = otherCase (runs.take count) [] character := by
  have unexpanded : expansions.find? (fun expansion => expansion.1 == character.toNat) = none := by
    rw [List.find?_eq_none]
    intro expansion listed same
    have greater := expanded expansion listed
    rw [beq_iff_eq] at same
    omega
  have uncovered : (runs.drop count).find? (fun run => run.covers character.toNat) = none := by
    rw [List.find?_eq_none]
    intro run listed covered
    have greater := after run listed
    simp only [CaseRun.covers, Bool.and_eq_true, Nat.ble_eq] at covered
    omega
  have among
      : (runs.take count ++ runs.drop count).find? (fun run => run.covers character.toNat) = _ :=
    List.find?_append
  rw [List.take_append_drop, uncovered, Option.or_none] at among
  simp [otherCase, unexpanded, among]

/-- Only ranges that start below a bound hold characters below it. -/
theorem inRanges_eq_take {bound : Nat} (count : Nat) (small : character.toNat < bound)
    (after : ∀ range ∈ ranges.drop count, bound ≤ range.1)
    : inRanges ranges character = inRanges (ranges.take count) character := by
  have outside : inRanges (ranges.drop count) character = false := by
    rw [inRanges, List.any_eq_false]
    intro range listed within
    have greater := after range listed
    simp only [CodeRange.contains, Bool.and_eq_true, Nat.ble_eq] at within
    omega
  have among : inRanges (ranges.take count ++ ranges.drop count) character = _ := inRanges_append
  rwa [List.take_append_drop, outside, Bool.or_false] at among

/-- Case forms below the code point 128 are those of the letters A to Z. -/
theorem caseForms_of_toNat_lt (ascii : character.toNat < 128)
    : lowerCase character = [character.toLower]
      ∧ upperCase character = [character.toUpper]
      ∧ isUppercase character = character.isUpper := by
  have listed
      : ∀ code < 128,
          otherCase (lowerRuns.take 1) [] (Char.ofNat code) = [(Char.ofNat code).toLower]
          ∧ otherCase (upperRuns.take 1) [] (Char.ofNat code) = [(Char.ofNat code).toUpper]
          ∧ inRanges (uppercaseRanges.take 1) (Char.ofNat code) = (Char.ofNat code).isUpper := by
    decide +kernel
  obtain ⟨lower, upper, capital⟩ := listed character.toNat ascii
  rw [Char.ofNat_toNat] at lower upper capital
  refine ⟨?_, ?_, ?_⟩
  · exact (otherCase_eq_take 1 ascii (by decide +kernel) (by decide +kernel)).trans lower
  · exact (otherCase_eq_take 1 ascii (by decide +kernel) (by decide +kernel)).trans upper
  · exact (inRanges_eq_take 1 ascii (by decide +kernel)).trans capital

end TypedQuery.Text
