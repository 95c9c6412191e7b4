import TypedQuery.Declaration.Enumeration
import TypedQuery.Operand
import TypedQuery.Proofs.Fallible
import TypedQuery.Proofs.Text.Numeral

/-! What selects the variants of a derived enumeration. A token is tried as a name first, up to the case
of letters, then as a number, and the first variant by a name is taken. Nothing keeps the names of
variants apart from each other or from the numbers of other variants, so one variant can hide another.
-/

namespace TypedQuery.Declaration

open Text

namespace NumberedVariant

/-- The decimal form of the number of a variant. -/
def numeral (variant : NumberedVariant) : String :=
  toString variant.number.toNat

/-- The token is the name of the variant, up to the case of letters and the white space around it. -/
def goesBy (variant : NumberedVariant) (token : String) : Bool :=
  sameLetters variant.queryName (String.ofList (trim token.toList))

end NumberedVariant

open NumberedVariant

/-- The enumeration of numbered variants, under its name in messages. -/
def enumerationOf (name : String) (variants : List NumberedVariant) : Enumeration :=
  ⟨name, variants.map fun variant => (variant.queryName, variant.number)⟩

/-- No variant is hidden by another one. What goes by the name or by the numeral of a variant has the
number of that variant. A name with white space around it is none that a token can have, so there has
to be another one without, or the number. -/
structure Unhidden (variants : List NumberedVariant) : Prop where
  names : ∀ variant ∈ variants, ∀ other ∈ variants,
    other.goesBy variant.queryName = true → other.number = variant.number
  numerals : ∀ variant ∈ variants, ∀ other ∈ variants,
    other.goesBy variant.numeral = true → other.number = variant.number
  reachable : ∀ variant ∈ variants,
    (∃ other ∈ variants, other.goesBy variant.queryName = true)
    ∨ Kind.wordOfText? (trim variant.queryName.toList) = some variant.number

section

variable {variants : List NumberedVariant} {variant other : NumberedVariant} {token name : String}
  {nullable : Bool} {number : UInt32}

-----------------------------------------------------------------------------------------
-- Tokens of variants
-----------------------------------------------------------------------------------------

theorem numberOf?_enumerationOf
    : (enumerationOf name variants).numberOf? (String.ofList (trim token.toList))
      = (variants.find? fun variant => variant.goesBy token).map NumberedVariant.number := by
  rw [Enumeration.numberOf?, enumerationOf, List.find?_map, Option.map_map]
  rfl

theorem hasNumber_enumerationOf (name : String)
    : (enumerationOf name variants).hasNumber number = true
      ↔ ∃ variant ∈ variants, variant.number = number := by
  simp [Enumeration.hasNumber, enumerationOf]

/-- A token has the number of the first variant that goes by it. If there is none it is a number that
some variant has. -/
theorem convert_eq_ok_iff
    : (Kind.variant (enumerationOf name variants)).convert nullable (some token)
          = .ok (.variant number)
      ↔ (∃ first, variants.find? (fun variant => variant.goesBy token) = some first
            ∧ first.number = number)
        ∨ variants.find? (fun variant => variant.goesBy token) = none
            ∧ Kind.wordOfText? (trim token.toList) = some number
            ∧ ∃ variant ∈ variants, variant.number = number := by
  have read : (Kind.variant (enumerationOf name variants)).convert nullable (some token)
          = .ok (.variant number)
      ↔ Kind.variantOfText? (enumerationOf name variants) (trim token.toList) = some number := by
    simp [Kind.convert_some_eq_ok, Kind.valueOfText?]
  rw [read, Kind.variantOfText?, numberOf?_enumerationOf, ← hasNumber_enumerationOf name]
  cases variants.find? (fun variant => variant.goesBy token) with
  | some first => simp
  | none => simp [Option.filter_eq_some_iff]

/-- Variants that go by one token go by each other's names: that of the one is a whole token for the
other. -/
theorem goesBy_queryName (goes : variant.goesBy token = true)
    : other.goesBy variant.queryName = other.goesBy token := by
  have lowered : lowerLetters variant.queryName.toList = lowerLetters (trim token.toList) := by
    simpa [goesBy, sameLetters] using goes
  have whole : lowerLetters (trim variant.queryName.toList) = lowerLetters (trim token.toList) := by
    rw [lowerLetters_trim, lowered, ← lowerLetters_trim, trim_trim]
  simp [goesBy, sameLetters, whole]

theorem wordOfText?_numeral (variant : NumberedVariant)
    : Kind.wordOfText? (trim variant.numeral.toList) = some variant.number := by
  have digits : variant.numeral.toList = Nat.toDigits 10 variant.number.toNat := by
    rw [numeral, Nat.toString_eq_repr, Nat.toList_repr]
  rw [digits, trim_toDigits, Kind.wordOfText?, unsigned?_toDigits]
  simp [variant.number.toNat_lt]

-----------------------------------------------------------------------------------------
-- Hidden variants
-----------------------------------------------------------------------------------------

/-- Every variant is found under a token that stands for it by name or by number, if what goes by the
token has its number. -/
theorem convert_of_unhidden (member : variant ∈ variants)
    (unhidden : ∀ other ∈ variants, other.goesBy token = true → other.number = variant.number)
    (reachable : (∃ other ∈ variants, other.goesBy token = true)
      ∨ Kind.wordOfText? (trim token.toList) = some variant.number)
    : (Kind.variant (enumerationOf name variants)).convert nullable (some token)
      = .ok (.variant variant.number) := by
  rw [convert_eq_ok_iff]
  cases found : variants.find? (fun variant => variant.goesBy token) with
  | some first =>
      have goes : first.goesBy token = true := by simpa using List.find?_some found
      exact .inl ⟨first, rfl, unhidden first (List.mem_of_find?_eq_some found) goes⟩
  | none =>
      have nobody : ¬ ∃ other ∈ variants, other.goesBy token = true := by simpa using found
      exact .inr ⟨rfl, reachable.resolve_left nobody, variant, member, rfl⟩

/-- If every variant is found under its own name, then all that go by one token have one number: their
names lead to the same place. -/
theorem number_eq_of_goesBy
    (named : ∀ variant ∈ variants,
      (Kind.variant (enumerationOf name variants)).convert nullable (some variant.queryName)
        = .ok (.variant variant.number))
    (selected : (Kind.variant (enumerationOf name variants)).convert nullable (some token)
      = .ok (.variant number))
    (member : other ∈ variants) (goes : other.goesBy token = true)
    : other.number = number := by
  have same : (Kind.variant (enumerationOf name variants)).convert nullable (some other.queryName)
      = .ok (.variant number) := by
    rw [convert_eq_ok_iff] at selected ⊢
    simp only [goesBy_queryName goes]
    obtain found | ⟨missing, -⟩ := selected
    · exact .inl found
    · exact absurd goes (List.find?_eq_none.mp missing other member)
  rw [named other member] at same
  cases same
  rfl

/-- All variants of an enumeration can be selected by their names and by their numbers just if none of
them is hidden by another one. -/
theorem selectable_iff_unhidden
    : (∀ variant ∈ variants,
          (Kind.variant (enumerationOf name variants)).convert nullable (some variant.queryName)
            = .ok (.variant variant.number)
          ∧ (Kind.variant (enumerationOf name variants)).convert nullable (some variant.numeral)
            = .ok (.variant variant.number))
      ↔ Unhidden variants := by
  constructor
  · intro selectable
    have named : ∀ variant ∈ variants,
        (Kind.variant (enumerationOf name variants)).convert nullable (some variant.queryName)
          = .ok (.variant variant.number) :=
      fun variant member => (selectable variant member).1
    refine ⟨?_, ?_, ?_⟩
    · intro variant member other another goes
      exact number_eq_of_goesBy named (named variant member) another goes
    · intro variant member other another goes
      exact number_eq_of_goesBy named (selectable variant member).2 another goes
    · intro variant member
      rcases convert_eq_ok_iff.mp (named variant member) with ⟨first, found, -⟩ | ⟨-, numbered, -⟩
      · have goes : first.goesBy variant.queryName = true := by simpa using List.find?_some found
        exact .inl ⟨first, List.mem_of_find?_eq_some found, goes⟩
      · exact .inr numbered
  · rintro ⟨names, numerals, reachable⟩ variant member
    exact ⟨convert_of_unhidden member (names variant member) (reachable variant member),
      convert_of_unhidden member (numerals variant member) (.inr (wordOfText?_numeral variant))⟩

end

-----------------------------------------------------------------------------------------
-- Derived enumerations
-----------------------------------------------------------------------------------------

/-- The entry is that of a declared variant, under the name that its attributes and those of the
enumeration give it. -/
def NumberedVariant.EntryOf (container : Exposure) (declared : Variant) (entry : NumberedVariant)
    : Prop :=
  entry.variant = declared.name
  ∧ ∃ exposure, Exposure.ofAttributes declared.attributes = .ok exposure
      ∧ entry.queryName = Declaration.queryName exposure container declared.name

/-- Every declared variant has its entry, by induction on the variants. -/
theorem entries_of_numberVariants {container : Exposure} {next : Option UInt32}
    {declared : List Variant} {variants : List NumberedVariant}
    (numbered : numberVariants container next declared = .ok variants)
    : List.Forall₂ (EntryOf container) declared variants := by
  induction declared generalizing next variants with
  | nil =>
      cases numbered
      exact .nil
  | cons first rest ih =>
      rw [numberVariants] at numbered
      split at numbered
      · cases numbered
      · simp only [bind_eq_ok] at numbered
        obtain ⟨number, -, exposure, read, others, later, same⟩ := numbered
        cases same
        exact .cons ⟨rfl, exposure, read, rfl⟩ (ih later)

namespace TypeDeclaration

/-- An enumeration is derived from a declaration without parameters, variant by variant. -/
theorem entries_of_numberedVariants {declaration : TypeDeclaration}
    {variants : List NumberedVariant} (derived : declaration.numberedVariants = .ok variants)
    : ∃ declared container, declaration.shape = .enumeration declared
        ∧ List.Forall₂ (EntryOf container) declared variants := by
  unfold numberedVariants at derived
  cases generic : declaration.isGeneric with
  | true => simp [generic, bind_eq_ok] at derived
  | false =>
      cases shape : declaration.shape with
      | enumeration declared =>
          simp only [generic, shape, Bool.false_eq_true, if_false, bind_eq_ok] at derived
          obtain ⟨container, -, numbered⟩ := derived
          exact ⟨declared, container, rfl, entries_of_numberVariants numbered⟩
      | record | tuple | unit | union => simp [generic, shape] at derived

/-- A derived enumeration has an entry for every declared variant. All of them can be selected, each by
its name and by the decimal form of its number, exactly if none of them is hidden. The derivation lets
names pass that are equal up to the case of letters, or that are the number of another variant. -/
theorem numberedVariants_selectable {declaration : TypeDeclaration}
    {variants : List NumberedVariant} (derived : declaration.numberedVariants = .ok variants)
    (name : String) (nullable : Bool)
    : (∃ declared container, declaration.shape = .enumeration declared
          ∧ List.Forall₂ (EntryOf container) declared variants)
      ∧ ((∀ variant ∈ variants,
            (Kind.variant (enumerationOf name variants)).convert nullable (some variant.queryName)
              = .ok (.variant variant.number)
            ∧ (Kind.variant (enumerationOf name variants)).convert nullable (some variant.numeral)
              = .ok (.variant variant.number))
          ↔ Unhidden variants) :=
  ⟨entries_of_numberedVariants derived, selectable_iff_unhidden⟩

/-- The stages of an order as declared, the last one with a number of its own. -/
def stage : TypeDeclaration where
  name := "Stage"
  attributes := [⟨"query", some [.text "rename_all" "snake_case"]⟩]
  shape := .enumeration [
    { name := "Open" },
    { name := "InProgress" },
    { name := "Closed", number := some "10",
      attributes := [⟨"query", some [.text "rename" "finished"]⟩] }]

/-- The variants that are derived for the stages of an order. -/
def stages : List NumberedVariant :=
  [⟨"Open", "open", 0⟩, ⟨"InProgress", "in_progress", 1⟩, ⟨"Closed", "finished", 10⟩]

/-- The stages of an order have different names, so each is selected by its name and by its number. -/
theorem numberedVariants_selectable_stage
    : stage.numberedVariants = .ok stages
      ∧ (Kind.variant (enumerationOf "Stage" stages)).convert false (some "finished")
          = .ok (.variant 10)
      ∧ (Kind.variant (enumerationOf "Stage" stages)).convert false (some "1") = .ok (.variant 1) := by
  have derived : stage.numberedVariants = .ok stages := by decide +kernel
  have unhidden : Unhidden stages :=
    ⟨by decide +kernel, by decide +kernel, by decide +kernel⟩
  have selectable := (numberedVariants_selectable derived "Stage" false).2.mpr unhidden
  exact ⟨derived, (selectable ⟨"Closed", "finished", 10⟩ (by decide)).1,
    (selectable ⟨"InProgress", "in_progress", 1⟩ (by decide)).2⟩

/-- Two variants whose names differ in nothing but the case of a letter are accepted, and the name of the
second one selects the first. -/
theorem numberedVariants_selectable_hidden
    : TypeDeclaration.numberedVariants
          { name := "Letter", shape := .enumeration [{ name := "a" }, { name := "A" }] }
        = .ok [⟨"a", "a", 0⟩, ⟨"A", "A", 1⟩]
      ∧ (Kind.variant (enumerationOf "Letter" [⟨"a", "a", 0⟩, ⟨"A", "A", 1⟩])).convert false (some "A")
        = .ok (.variant 0) := by
  decide +kernel

end TypeDeclaration

end TypedQuery.Declaration
