import TypedQuery.Proofs.Declaration.Variants

/-! The numbers of variants. A variant has the number that is written for it, or else the one after that
of the variant before, and the first one has zero. Counting on never leaves the range of numbers: an
enumeration is refused exactly where a variant without a number follows the one that has the last.
-/

namespace TypedQuery.Declaration

open NumberedVariant

-----------------------------------------------------------------------------------------
-- Counting without a limit
-----------------------------------------------------------------------------------------

namespace Variant

/-- The number that is written for the variant as an integer literal. -/
def written? (variant : Variant) : Option Nat :=
  variant.number.bind integerLiteral?

/-- What is written for the number of the variant, if anything, is an integer literal in the range of
numbers.
-/
def FitsWord (variant : Variant) : Prop :=
  ∀ source, variant.number = some source →
    ∃ number, integerLiteral? source = some number ∧ number ≤ 4294967295

/-- The variant carries no data, its number fits, and its first attribute of queries can be read. -/
structure Admissible (variant : Variant) : Prop where
  bare : variant.hasData = false
  fits : variant.FitsWord
  readable : ∃ exposure, Exposure.ofAttributes variant.attributes = .ok exposure

end Variant

/-- The numbers of variants as they are counted without a limit. `next` is the number after that of the
variant before.
-/
def countedFrom (next : Nat) : List Variant → List Nat
  | [] => []
  | variant :: rest =>
      let number := variant.written?.getD next
      number :: countedFrom (number + 1) rest

/-- The number as a word, if it is in the range of numbers. -/
def word? (number : Nat) : Option UInt32 :=
  if number < UInt32.size then some (UInt32.ofNat number) else none

section

variable {container : Exposure} {next : Nat} {number : UInt32} {variant : Variant}
  {variants : List Variant} {entries : List NumberedVariant}

-----------------------------------------------------------------------------------------
-- One variant
-----------------------------------------------------------------------------------------

theorem word?_eq_some {count : Nat} : word? count = some number ↔ number.toNat = count := by
  unfold word?
  constructor
  · intro fits
    split at fits
    · next small =>
      cases fits
      exact UInt32.toNat_ofNat_of_lt' small
    · cases fits
  · rintro rfl
    rw [if_pos number.toNat_lt, UInt32.ofNat_toNat]

theorem numberAfter?_eq (number : UInt32) : numberAfter? number = word? (number.toNat + 1) := by
  unfold numberAfter? word?
  split
  · next small =>
    rw [Option.some.injEq, ← UInt32.toNat_inj, UInt32.toNat_ofNat_of_lt' small]
    exact Nat.mod_eq_of_lt small
  · rfl

/-- A variant is numbered as it is counted, where its number is in range. -/
theorem variantNumber_eq_ok
    : variantNumber (word? next) variant = .ok number
      ↔ variant.FitsWord ∧ number.toNat = variant.written?.getD next := by
  unfold variantNumber Variant.FitsWord Variant.written?
  cases variant.number with
  | none =>
      simp only [Option.bind_none, Option.getD_none, reduceCtorEq, false_implies, implies_true,
        true_and]
      rw [← word?_eq_some]
      cases word? next <;> simp
  | some source =>
      simp only [Option.bind_some, Option.some.injEq, forall_eq']
      cases integerLiteral? source with
      | none => simp
      | some count =>
          simp only [Option.some.injEq, exists_eq_left', Option.getD_some]
          split
          · next small =>
            have fits : count ≤ 4294967295 := Nat.le_of_lt_succ small
            rw [← word?_eq_some, word?, if_pos small]
            simp [fits]
          · next large =>
            have exceeds : ¬ count ≤ 4294967295 := mt Nat.lt_succ_of_le large
            simp [exceeds]

/-- The variants of an enumeration are numbered one after the other. -/
theorem numberVariants_cons
    : numberVariants container (word? next) (variant :: variants) = .ok entries
      ↔ ∃ entry others, entries = entry :: others
          ∧ variant.hasData = false
          ∧ EntryOf container variant entry
          ∧ variantNumber (word? next) variant = .ok entry.number
          ∧ numberVariants container (word? (entry.number.toNat + 1)) variants = .ok others := by
  rw [numberVariants]
  cases data : variant.hasData with
  | true => simp [bind_eq_ok]
  | false =>
      simp only [Bool.false_eq_true, if_false, bind_eq_ok, numberAfter?_eq]
      constructor
      · rintro ⟨number, numbered, exposure, read, others, later, same⟩
        cases same
        exact ⟨_, others, rfl, trivial, ⟨rfl, exposure, read, rfl⟩, numbered, later⟩
      · rintro ⟨⟨_, _, number⟩, others, rfl, -, ⟨rfl, exposure, read, rfl⟩, numbered, later⟩
        exact ⟨number, numbered, exposure, read, others, later, rfl⟩

-----------------------------------------------------------------------------------------
-- All variants
-----------------------------------------------------------------------------------------

/-- Variants are numbered exactly as they are counted, by induction on the variants: after each one the
counter stands at the number after its own, or at no number if that one is out of range.
-/
theorem numberVariants_eq_ok
    : numberVariants container (word? next) variants = .ok entries
      ↔ List.Forall₂ (EntryOf container) variants entries
          ∧ (∀ variant ∈ variants, variant.hasData = false ∧ variant.FitsWord)
          ∧ entries.map (fun entry => entry.number.toNat) = countedFrom next variants := by
  induction variants generalizing next entries with
  | nil =>
      cases entries <;> simp [numberVariants, countedFrom, pure, Except.pure]
  | cons variant rest ih =>
      rw [numberVariants_cons, List.forall₂_cons_left_iff, List.forall_mem_cons]
      constructor
      · rintro ⟨entry, others, rfl, bare, named, numbered, later⟩
        obtain ⟨fits, counted⟩ := variantNumber_eq_ok.mp numbered
        obtain ⟨placed, admitted, countedOn⟩ := ih.mp later
        refine ⟨⟨entry, others, named, placed, rfl⟩, ⟨⟨bare, fits⟩, admitted⟩, ?_⟩
        rw [List.map_cons, countedOn, countedFrom, counted]
      · rintro ⟨⟨entry, others, named, placed, rfl⟩, ⟨⟨bare, fits⟩, admitted⟩, counted⟩
        rw [List.map_cons, countedFrom, List.cons.injEq] at counted
        refine ⟨entry, others, rfl, bare, named, variantNumber_eq_ok.mpr ⟨fits, counted.1⟩, ?_⟩
        exact ih.mpr ⟨placed, admitted, counted.1 ▸ counted.2⟩

/-- Every list of numbers in range is that of some entries for the variants, by induction on the
variants. -/
theorem exists_entries (container : Exposure)
    (readable : ∀ variant ∈ variants,
      ∃ exposure, Exposure.ofAttributes variant.attributes = .ok exposure)
    (small : ∀ number ∈ countedFrom next variants, number ≤ 4294967295)
    : ∃ entries, List.Forall₂ (EntryOf container) variants entries
        ∧ entries.map (fun entry => entry.number.toNat) = countedFrom next variants := by
  induction variants generalizing next with
  | nil => exact ⟨[], .nil, rfl⟩
  | cons variant rest ih =>
      obtain ⟨⟨exposure, read⟩, laterReadable⟩ := List.forall_mem_cons.mp readable
      obtain ⟨first, laterSmall⟩ := List.forall_mem_cons.mp small
      obtain ⟨others, placed, counted⟩ := ih laterReadable laterSmall
      refine ⟨⟨variant.name, queryName exposure container variant.name,
        .ofNat (variant.written?.getD next)⟩ :: others, .cons ⟨rfl, exposure, read, rfl⟩ placed, ?_⟩
      rw [List.map_cons, counted, countedFrom, UInt32.toNat_ofNat_of_lt' (Nat.lt_succ_of_le first)]

/-- Variants are numbered exactly if all of them are admissible and no count leaves the range. -/
theorem exists_numberVariants_iff
    : (∃ entries, numberVariants container (word? next) variants = .ok entries)
      ↔ (∀ variant ∈ variants, variant.Admissible)
          ∧ ∀ number ∈ countedFrom next variants, number ≤ 4294967295 := by
  simp only [numberVariants_eq_ok]
  constructor
  · rintro ⟨entries, placed, admitted, counted⟩
    refine ⟨?_, ?_⟩
    · intro variant member
      obtain ⟨entry, -, -, exposure, read, -⟩ := exists_of_mem_right placed.flip member
      exact ⟨(admitted variant member).1, (admitted variant member).2, exposure, read⟩
    · intro number member
      rw [← counted] at member
      obtain ⟨entry, -, rfl⟩ := List.mem_map.mp member
      exact Nat.le_of_lt_succ entry.number.toNat_lt
  · rintro ⟨admissible, small⟩
    obtain ⟨entries, placed, counted⟩ :=
      exists_entries container (fun variant member => (admissible variant member).readable) small
    refine ⟨entries, placed, ?_, counted⟩
    intro variant member
    exact ⟨(admissible variant member).bare, (admissible variant member).fits⟩

-----------------------------------------------------------------------------------------
-- Running over
-----------------------------------------------------------------------------------------

/-- No variant without a number of its own comes right after one that has the last number. -/
def NoneRunsOver (next : Nat) (variants : List Variant) : Prop :=
  ∀ index follower, (countedFrom next variants)[index]? = some 4294967295 →
    variants[index + 1]? = some follower → follower.number ≠ none

/-- A variant runs over if it is the next one after the last number, or runs over later on. -/
theorem noneRunsOver_cons
    : NoneRunsOver next (variant :: variants)
      ↔ (variant.written?.getD next = 4294967295 →
            ∀ follower, variants.head? = some follower → follower.number ≠ none)
          ∧ NoneRunsOver (variant.written?.getD next + 1) variants := by
  unfold NoneRunsOver
  constructor
  · intro none
    refine ⟨?_, ?_⟩
    · intro last follower follows
      rw [List.head?_eq_getElem?] at follows
      exact none 0 follower (by rw [countedFrom, last]; rfl) follows
    · intro index follower counted follows
      exact none (index + 1) follower counted follows
  · rintro ⟨now, later⟩ index follower counted follows
    cases index with
    | zero =>
        rw [countedFrom, List.getElem?_cons_zero, Option.some.injEq] at counted
        rw [List.getElem?_cons_succ, ← List.head?_eq_getElem?] at follows
        exact now counted follower follows
    | succ index => exact later index follower counted follows

/-- Counts stay in range if the first one does and no variant runs over, by induction on the variants. -/
theorem countedFrom_small_iff (fits : ∀ variant ∈ variants, variant.FitsWord)
    : (∀ number ∈ countedFrom next variants, number ≤ 4294967295)
      ↔ (∀ first, variants.head? = some first → first.number = none → next ≤ 4294967295)
          ∧ NoneRunsOver next variants := by
  induction variants generalizing next with
  | nil => simp [countedFrom, NoneRunsOver]
  | cons variant rest ih =>
      obtain ⟨fit, later⟩ := List.forall_mem_cons.mp fits
      have small : variant.written?.getD next ≤ 4294967295
          ↔ (variant.number = none → next ≤ 4294967295) := by
        unfold Variant.written?
        cases written : variant.number with
        | none => simp
        | some source =>
            obtain ⟨number, read, least⟩ := fit source written
            simp [read, least]
      rw [countedFrom, List.forall_mem_cons, ih later, noneRunsOver_cons, small]
      simp only [List.head?_cons, Option.some.injEq, forall_eq']
      constructor
      · rintro ⟨first, follower, others⟩
        refine ⟨first, ?_, others⟩
        intro last next follows unnumbered
        have beyond := follower next follows unnumbered
        omega
      · rintro ⟨first, follower, others⟩
        refine ⟨first, ?_, others⟩
        intro next follows unnumbered
        have least := small.mpr first
        by_contra beyond
        exact follower (by omega) next follows unnumbered

-----------------------------------------------------------------------------------------
-- Counting in words
-----------------------------------------------------------------------------------------

/-- The words that number variants after one with the number `before`, or the first variants. A variant
has the number that is written for it, or else the one after that of the variant before, or zero if there
is none before. There is no number after the last word.
-/
inductive CountsOn : (before : Option UInt32) → List Variant → List UInt32 → Prop
  | nil {before : Option UInt32} : CountsOn before [] []
  | written {before : Option UInt32} {variant : Variant} {rest : List Variant} {source : String}
    {number : UInt32} {numbers : List UInt32} (given : variant.number = some source)
    (read : integerLiteral? source = some number.toNat)
    (later : CountsOn (some number) rest numbers)
    : CountsOn before (variant :: rest) (number :: numbers)
  | first {variant : Variant} {rest : List Variant} {numbers : List UInt32}
    (ungiven : variant.number = none) (later : CountsOn (some 0) rest numbers)
    : CountsOn none (variant :: rest) (0 :: numbers)
  | next {before number : UInt32} {variant : Variant} {rest : List Variant} {numbers : List UInt32}
    (ungiven : variant.number = none) (follows : number.toNat = before.toNat + 1)
    (later : CountsOn (some number) rest numbers)
    : CountsOn (some before) (variant :: rest) (number :: numbers)

/-- Words that are the counts of variants count on, by induction on the variants. -/
theorem countsOn_of_counted {before : Option UInt32} {numbers : List UInt32}
    (fits : ∀ variant ∈ variants, variant.FitsWord)
    (counted : numbers.map UInt32.toNat
      = countedFrom (before.elim 0 fun number => number.toNat + 1) variants)
    : CountsOn before variants numbers := by
  induction variants generalizing before numbers with
  | nil =>
      rw [countedFrom, List.map_eq_nil_iff] at counted
      exact counted ▸ .nil
  | cons variant rest ih =>
      obtain ⟨fit, later⟩ := List.forall_mem_cons.mp fits
      obtain ⟨number, others, rfl, same, counted⟩ := List.map_eq_cons_iff.mp counted
      have later : CountsOn (some number) rest others := ih later (by rw [counted, ← same]; rfl)
      cases written : variant.number with
      | some source =>
          obtain ⟨value, read, -⟩ := fit source written
          have denotes : integerLiteral? source = some number.toNat := by
            simp [same, Variant.written?, written, read]
          exact .written written denotes later
      | none =>
          rw [Variant.written?, written, Option.bind_none, Option.getD_none] at same
          cases before with
          | none =>
              have zero : number = 0 := UInt32.toNat_inj.mp same
              subst zero
              exact .first written later
          | some before => exact .next written same later

-----------------------------------------------------------------------------------------
-- Values of the enumeration
-----------------------------------------------------------------------------------------

/-- The name of a variant without the mark that it may be written with. -/
def identifierOf (name : String) : List Char :=
  withoutRawMark name.toList

/-- The number of a value of the enumeration: the first case that is for its variant decides. -/
def valueNumber? (entries : List NumberedVariant) (variant : String) : Option UInt32 :=
  (entries.find? fun entry => identifierOf entry.variant == identifierOf variant).map
    NumberedVariant.number

/-- Among variants of different names each finds its own case, by induction on the cases. -/
theorem valueNumber?_of_mem {entry : NumberedVariant}
    (distinct : (entries.map fun entry => identifierOf entry.variant).Nodup)
    (member : entry ∈ entries)
    : valueNumber? entries entry.variant = some entry.number := by
  unfold valueNumber?
  induction entries with
  | nil => cases member
  | cons first rest ih =>
      rw [List.map_cons, List.nodup_cons] at distinct
      rcases List.mem_cons.mp member with same | later
      · subst first
        simp
      · have apart : identifierOf first.variant ≠ identifierOf entry.variant := by
          intro same
          exact distinct.1 (List.mem_map.mpr ⟨entry, later, same.symm⟩)
        rw [List.find?_cons_of_neg (by simpa using apart)]
        exact ih distinct.2 later

/-- Values have the numbers that the table pairs with their variants, place by place. -/
theorem valueNumber?_table (placed : List.Forall₂ (EntryOf container) variants entries)
    (distinct : (variants.map fun variant => identifierOf variant.name).Nodup) (name : String)
    : List.Forall₂ (fun variant pair => valueNumber? entries variant.name = some pair.2) variants
        (enumerationOf name entries).variants := by
  have names : (variants.map fun variant => identifierOf variant.name)
      = entries.map fun entry => identifierOf entry.variant := by
    rw [← List.forall₂_eq_eq_eq, List.forall₂_map_left_iff, List.forall₂_map_right_iff]
    exact placed.imp fun variant entry named => congrArg identifierOf named.1.symm
  obtain ⟨lengths, pairs⟩ := List.forall₂_iff_zip.mp placed
  rw [enumerationOf, List.forall₂_map_right_iff, List.forall₂_iff_zip]
  refine ⟨lengths, ?_⟩
  intro variant entry together
  obtain ⟨named, -⟩ := pairs together
  rw [← named]
  exact valueNumber?_of_mem (names ▸ distinct) (List.of_mem_zip together).2

end

-----------------------------------------------------------------------------------------
-- Derived enumerations
-----------------------------------------------------------------------------------------

namespace TypeDeclaration

variable {declaration : TypeDeclaration} {variants : List Variant}

theorem numberedVariants_eq_ok {entries : List NumberedVariant}
    (plain : declaration.isGeneric = false) (shape : declaration.shape = .enumeration variants)
    : declaration.numberedVariants = .ok entries
      ↔ ∃ container, Exposure.ofAttributes declaration.attributes = .ok container
          ∧ numberVariants container (word? 0) variants = .ok entries := by
  have zero : word? 0 = some 0 := rfl
  simp only [numberedVariants, plain, shape, Bool.false_eq_true, if_false, bind_eq_ok, zero]

/-- Declared variants have the numbers of the language. An enumeration without parameters is derived
exactly if its first attribute of queries can be read, if its variants carry no data, have such
attributes and have integer literals in range where they have numbers written, and if none without
runs over the last number. Its table then has an entry for every variant in order, and the numbers count
on from zero or from what is written. A value of the enumeration has the number in the table.
-/
theorem numberedVariants_countsOn (plain : declaration.isGeneric = false)
    (shape : declaration.shape = .enumeration variants)
    : ((∃ entries, declaration.numberedVariants = .ok entries)
        ↔ (∃ container, Exposure.ofAttributes declaration.attributes = .ok container)
          ∧ (∀ variant ∈ variants, variant.Admissible)
          ∧ NoneRunsOver 0 variants)
      ∧ ∀ entries, declaration.numberedVariants = .ok entries →
          (∃ container, Exposure.ofAttributes declaration.attributes = .ok container
            ∧ List.Forall₂ (EntryOf container) variants entries)
          ∧ CountsOn none variants (entries.map NumberedVariant.number)
          ∧ entries.map (fun entry => entry.number.toNat) = countedFrom 0 variants
          ∧ ((variants.map fun variant => identifierOf variant.name).Nodup → ∀ name,
              List.Forall₂ (fun variant pair => valueNumber? entries variant.name = some pair.2)
                variants (enumerationOf name entries).variants) := by
  refine ⟨?_, ?_⟩
  · simp only [numberedVariants_eq_ok plain shape]
    constructor
    · rintro ⟨entries, container, read, numbered⟩
      obtain ⟨admissible, small⟩ := exists_numberVariants_iff.mp ⟨entries, numbered⟩
      have fits : ∀ variant ∈ variants, variant.FitsWord :=
        fun variant member => (admissible variant member).fits
      exact ⟨⟨container, read⟩, admissible, ((countedFrom_small_iff fits).mp small).2⟩
    · rintro ⟨⟨container, read⟩, admissible, none⟩
      have fits : ∀ variant ∈ variants, variant.FitsWord :=
        fun variant member => (admissible variant member).fits
      have small := (countedFrom_small_iff fits).mpr ⟨fun _ _ _ => Nat.zero_le _, none⟩
      obtain ⟨entries, numbered⟩
          : ∃ entries, numberVariants container (word? 0) variants = .ok entries :=
        exists_numberVariants_iff.mpr ⟨admissible, small⟩
      exact ⟨entries, container, read, numbered⟩
  · intro entries derived
    obtain ⟨container, read, numbered⟩ := (numberedVariants_eq_ok plain shape).mp derived
    obtain ⟨placed, admitted, counted⟩ := numberVariants_eq_ok.mp numbered
    refine ⟨⟨container, read, placed⟩, ?_, counted, valueNumber?_table placed⟩
    apply countsOn_of_counted
    · intro variant member
      exact (admitted variant member).2
    · rw [List.map_map]
      exact counted

/-- Levels with numbers in several notations, which go down as well as up and reach the last number. -/
def levels : List Variant :=
  [{ name := "Low", number := some "10" },
    { name := "Middle" },
    { name := "Last", number := some "0xFFFF_FFFF" },
    { name := "Zero", number := some "0u8" },
    { name := "One" }]

def level : TypeDeclaration where
  name := "Level"
  shape := .enumeration levels

/-- The entries that are derived for levels. -/
def levelEntries : List NumberedVariant :=
  [⟨"Low", "Low", 10⟩, ⟨"Middle", "Middle", 11⟩, ⟨"Last", "Last", 4294967295⟩, ⟨"Zero", "Zero", 0⟩,
    ⟨"One", "One", 1⟩]

/-- Levels are derived, as the variant after the last number has one of its own. With one more variant in
between they would be refused.
-/
theorem numberedVariants_countsOn_level
    : level.numberedVariants = .ok levelEntries
      ∧ CountsOn none levels [10, 11, 4294967295, 0, 1]
      ∧ List.Forall₂ (fun variant pair => valueNumber? levelEntries variant.name = some pair.2)
          levels (enumerationOf "Level" levelEntries).variants
      ∧ ¬ ∃ entries, TypeDeclaration.numberedVariants
          { level with shape := .enumeration (levels.insertIdx 3 { name := "Beyond" }) }
            = .ok entries := by
  have derived : level.numberedVariants = .ok levelEntries := by decide +kernel
  have shape : level.shape = .enumeration levels := rfl
  obtain ⟨-, numbers⟩ := numberedVariants_countsOn rfl shape
  obtain ⟨-, counts, -, values⟩ := numbers levelEntries derived
  refine ⟨derived, counts, values (by decide +kernel) "Level", ?_⟩
  intro accepted
  obtain ⟨-, -, none⟩ := (numberedVariants_countsOn rfl rfl).1.mp accepted
  exact none 2 { name := "Beyond" } (by decide +kernel) rfl rfl

end TypeDeclaration

end TypedQuery.Declaration
