import TypedQuery.Proofs.Declaration.Constants

/-! Names that give no constant. Whether a name does is checked only when its constant is made, so the
derivation breaks off at the first field that is shown under a new name of this kind, and reports nothing
about it. Names that fields ask for can be of this kind, and so can what a rule leaves of a name that
starts with underscores. Names of fields themselves are not, and neither is what a rule makes of a name
that is an identifier after the underscores at its start.
-/

namespace TypedQuery.Declaration

open Text

-----------------------------------------------------------------------------------------
-- Names that spell constants
-----------------------------------------------------------------------------------------

/-- The name is an identifier, apart from hyphens in it. -/
def spellsConstant : List Char → Bool
  | [] => false
  | first :: rest =>
      (startsIdentifier first || first == '-')
        && rest.all fun character => continuesIdentifier character || character == '-'

theorem spellsConstant_of_isIdentifier {text : List Char} (identifies : isIdentifier text = true)
    : spellsConstant text = true := by
  cases text with
  | nil => cases identifies
  | cons first rest =>
      obtain ⟨starts, goesOn⟩ := Bool.and_eq_true_iff.mp identifies
      rw [spellsConstant, starts, Bool.true_or, Bool.true_and, List.all_eq_true]
      intro character member
      rw [List.all_eq_true.mp goesOn character member, Bool.true_or]

/-- Letters can start identifiers. -/
theorem startsIdentifier_of_isAlpha {character : Char} (letter : character.isAlpha = true)
    : startsIdentifier character = true := by
  have bounds : (65 ≤ character.val ∧ character.val ≤ 90)
      ∨ 97 ≤ character.val ∧ character.val ≤ 122 := by
    simpa [Char.isAlpha, Char.isUpper, Char.isLower] using letter
  have within : inRanges identifierStartRanges character = true := by
    refine List.any_eq_true.mpr (bounds.elim (fun upper => ?_) (fun lower => ?_))
    · refine ⟨(0x41, 0x5A), List.mem_cons_self, ?_⟩
      simp only [CodeRange.contains, Bool.and_eq_true, Nat.ble_eq]
      exact upper
    · refine ⟨(0x61, 0x7A), List.mem_cons_of_mem _ List.mem_cons_self, ?_⟩
      simp only [CodeRange.contains, Bool.and_eq_true, Nat.ble_eq]
      exact lower
  rw [startsIdentifier, within, Bool.or_true]

/-- Letters are the only characters with another upper case, and identifiers can have any letters. -/
theorem identifier_toUpper (character : Char)
    : startsIdentifier character.toUpper = startsIdentifier character
      ∧ continuesIdentifier character.toUpper = continuesIdentifier character := by
  by_cases lower : character.isLower
  · have letter : character.isAlpha = true := by simp [Char.isAlpha, lower]
    have upper : character.toUpper.isAlpha = true := by simpa using letter
    have starts := startsIdentifier_of_isAlpha letter
    have begins := startsIdentifier_of_isAlpha upper
    rw [starts, begins, continuesIdentifier_of_startsIdentifier starts,
      continuesIdentifier_of_startsIdentifier begins]
    exact ⟨rfl, rfl⟩
  · rw [Char.toUpper_eq_of_not_isLower lower]
    exact ⟨rfl, rfl⟩

theorem isIdentifier_map_toUpper (text : List Char)
    : isIdentifier (text.map Char.toUpper) = isIdentifier text := by
  cases text with
  | nil => rfl
  | cons first rest =>
      have goesOn : continuesIdentifier ∘ Char.toUpper = continuesIdentifier :=
        funext fun character => (identifier_toUpper character).2
      rw [List.map_cons, isIdentifier, (identifier_toUpper first).1, List.all_map, goesOn,
        isIdentifier]

theorem ne_hyphen_of_letter {character : Char} (letter : ¬ IsSeparator character)
    : (character == '-') = false :=
  beq_eq_false_iff_ne.mpr fun hyphen => letter (.inr hyphen)

/-- By induction on the name. -/
theorem all_separatedFrom (followsLower : Bool) (name : List Char)
    : (separatedFrom followsLower name).all continuesIdentifier
        = name.all fun character => continuesIdentifier character || character == '-' := by
  induction name generalizing followsLower with
  | nil => rfl
  | cons character rest ih =>
      rw [separatedFrom, List.all_cons]
      split
      · next upper =>
        have notHyphen := ne_hyphen_of_letter (not_isSeparator_of_isUppercase upper)
        split <;> simp [ih, continuesIdentifier_underscore, notHyphen]
      · split
        · next separator =>
          rcases separator with rfl | rfl <;> simp [ih, continuesIdentifier_underscore]
        · next letter => rw [List.all_cons, ih, ne_hyphen_of_letter letter, Bool.or_false]

/-- The constant of a name is an identifier exactly if the name spells one. -/
theorem isIdentifier_constantName (name : String)
    : isIdentifier (constantName name).toList = spellsConstant name.toList := by
  rw [constantName, String.toList_ofList, constantFrom_eq_map, isIdentifier_map_toUpper]
  cases name.toList with
  | nil => rfl
  | cons first rest =>
      rw [separatedFrom, spellsConstant]
      split
      · next upper =>
        rw [if_neg Bool.false_ne_true, isIdentifier, all_separatedFrom,
          ne_hyphen_of_letter (not_isSeparator_of_isUppercase upper), Bool.or_false]
      · split
        · next separator =>
          rw [isIdentifier, all_separatedFrom]
          rcases separator with rfl | rfl <;> simp [startsIdentifier]
        · next letter =>
          rw [isIdentifier, all_separatedFrom, ne_hyphen_of_letter letter, Bool.or_false]

-----------------------------------------------------------------------------------------
-- Fields at which the derivation breaks off
-----------------------------------------------------------------------------------------

variable {container exposure : Exposure} {names : List String} {field : Field} {fields : List Field}
  {constant : String} {fault : DeclarationFault}

theorem Exposure.add_ne_invalidConstant {item : AttributeItem}
    : exposure.add item ≠ .error (.invalidConstant constant) := by
  intro failed
  cases item with
  | word path =>
      simp only [add] at failed
      split at failed
      · cases failed
      · cases failed
      · split at failed <;> cases failed
  | text name text =>
      simp only [add] at failed
      split at failed
      · cases failed
      · split at failed <;> cases failed
      · cases failed
  | literal name source => cases failed
  | nested name inner => cases failed

/-- Attributes are at fault in other ways, by induction on the items. -/
theorem Exposure.ofAttributes_ne_invalidConstant {attributes : List Attribute}
    : ofAttributes attributes ≠ .error (.invalidConstant constant) := by
  have ofItems (items : List AttributeItem) (start : Exposure)
      : items.foldlM add start ≠ .error (.invalidConstant constant) := by
    induction items generalizing start with
    | nil => nofun
    | cons item rest ih =>
        intro failed
        rcases bind_eq_error.mp failed with failed | ⟨next, -, failed⟩
        · exact add_ne_invalidConstant failed
        · exact ih next failed
  unfold ofAttributes
  split
  · nofun
  · nofun
  · exact ofItems _ _

/-- The field is shown, under a name that is new up to the case of letters but spells no constant. -/
structure FieldRefused (container : Exposure) (names : List String) (field : Field)
    (exposure : Exposure)
    : Prop where
  read : Exposure.ofAttributes field.attributes = .ok exposure
  shows : exposure.shows = true
  fresh : ∀ other ∈ names, sameLetters other (queryName exposure container field.name) = false
  unspelled : spellsConstant (queryName exposure container field.name).toList = false

theorem exposeField?_eq_invalidConstant
    : exposeField? container names field = .error (.invalidConstant constant)
        ↔ ∃ exposure, FieldRefused container names field exposure
            ∧ constantName (queryName exposure container field.name) = constant := by
  constructor
  · intro failed
    rw [exposeField?, bind_eq_error] at failed
    rcases failed with failed | ⟨exposure, read, failed⟩
    · exact absurd failed Exposure.ofAttributes_ne_invalidConstant
    · cases skips : exposure.skip with
      | true =>
          simp only [skips, if_true] at failed
          cases failed
      | false =>
          cases kind : exposure.exposedAs with
          | none =>
              simp only [skips, kind, Bool.false_eq_true, if_false] at failed
              cases failed
          | some exposedAs =>
              simp only [skips, kind, Bool.false_eq_true, if_false] at failed
              split at failed
              · cases failed
              · next unique =>
                split at failed
                · next unspelled =>
                  cases failed
                  refine ⟨exposure, ⟨read, by simp [Exposure.shows, skips, kind], ?_, ?_⟩, rfl⟩
                  · simpa using unique
                  · rw [← isIdentifier_constantName]
                    simpa using unspelled
                · cases failed
  · rintro ⟨exposure, ⟨read, shows, fresh, unspelled⟩, rfl⟩
    obtain ⟨kind, skips⟩ := Bool.and_eq_true_iff.mp shows
    obtain ⟨exposedAs, kind⟩ := Option.isSome_iff_exists.mp kind
    have skips : exposure.skip = false := by simpa using skips
    rw [← isIdentifier_constantName] at unspelled
    have unique : (names.any fun other =>
        sameLetters other (queryName exposure container field.name)) = false := by
      simpa using fresh
    simp only [exposeField?, read, ok_bind, skips, kind, unique, unspelled, Bool.false_eq_true,
      if_false, Bool.not_false, if_true]
    rfl

/-- A field that is hidden leaves the others as they are. -/
theorem exposeFields_hidden (hides : exposeField? container names field = .ok none)
    : exposeFields container names (field :: fields) = exposeFields container names fields := by
  rw [exposeFields, hides, ok_bind]

/-- The name of a field that is shown is taken for the others. -/
theorem exposeFields_shown {entry : ExposedField}
    (shows : exposeField? container names field = .ok (some entry))
    : exposeFields container names (field :: fields)
        = (exposeFields container (names ++ [entry.queryName]) fields).map (entry :: ·) := by
  rw [exposeFields, shows, ok_bind]
  rfl

/-- The first field that fails decides, by induction on the fields. -/
theorem exposeFields_eq_error
    : exposeFields container names fields = .error fault
        ↔ ∃ before field after exposed, fields = before ++ field :: after
            ∧ exposeFields container names before = .ok exposed
            ∧ exposeField? container (names ++ exposed.map ExposedField.queryName) field
              = .error fault := by
  induction fields generalizing names with
  | nil =>
      constructor
      · nofun
      · rintro ⟨before, field, after, exposed, same, -, -⟩
        simp at same
  | cons first rest ih =>
      constructor
      · intro failed
        cases step : exposeField? container names first with
        | error own =>
            rw [exposeFields, step, error_bind] at failed
            exact ⟨[], first, rest, [], rfl, rfl, by simpa [step] using failed⟩
        | ok shown? =>
            cases shown? with
            | none =>
                rw [exposeFields_hidden step] at failed
                obtain ⟨before, field, after, exposed, rfl, done, fails⟩ := ih.mp failed
                exact ⟨first :: before, field, after, exposed, rfl,
                  (exposeFields_hidden step).trans done, fails⟩
            | some entry =>
                rw [exposeFields_shown step, map_eq_error] at failed
                obtain ⟨before, field, after, exposed, rfl, done, fails⟩ := ih.mp failed
                refine ⟨first :: before, field, after, entry :: exposed, rfl, ?_, ?_⟩
                · rw [exposeFields_shown step, done]
                  rfl
                · simpa using fails
      · rintro ⟨before, field, after, exposed, same, done, fails⟩
        cases before with
        | nil =>
            cases same
            cases done
            rw [List.map_nil, List.append_nil] at fails
            rw [exposeFields, fails, error_bind]
        | cons earlier others =>
            cases same
            cases step : exposeField? container names first with
            | error own =>
                rw [exposeFields, step, error_bind] at done
                cases done
            | ok shown? =>
                cases shown? with
                | none =>
                    rw [exposeFields_hidden step] at done ⊢
                    exact ih.mpr ⟨others, field, after, exposed, rfl, done, fails⟩
                | some entry =>
                    rw [exposeFields_shown step] at done ⊢
                    obtain ⟨later, made, rfl⟩ := map_eq_ok.mp done
                    rw [map_eq_error]
                    exact ih.mpr ⟨others, field, after, later, rfl, made, by simpa using fails⟩

namespace TypeDeclaration

variable {declaration : TypeDeclaration}

/-- The derivation breaks off at a constant that is no identifier. Unlike the other ways to fail, this is
no report of what is wrong with the declaration. -/
def BreaksOff (declaration : TypeDeclaration) (constant : String) : Prop :=
  declaration.recordSchema = .error (.invalidConstant constant)

/-- Fields are all that the derivation can break off at. -/
theorem breaksOff_iff_exposeFields
    : declaration.BreaksOff constant
        ↔ declaration.isGeneric = false ∧ ∃ fields container, declaration.shape = .record fields
            ∧ Exposure.ofAttributes declaration.attributes = .ok container
            ∧ exposeFields container [] fields = .error (.invalidConstant constant) := by
  unfold BreaksOff recordSchema
  constructor
  · intro failed
    cases generic : declaration.isGeneric with
    | true =>
        rw [generic] at failed
        cases failed
    | false =>
        cases shape : declaration.shape with
        | record fields =>
            simp only [generic, shape, Bool.false_eq_true, if_false, bind_eq_error] at failed
            rcases failed with failed | ⟨container, read, failed | ⟨exposed, -, impossible⟩⟩
            · exact absurd failed Exposure.ofAttributes_ne_invalidConstant
            · exact ⟨rfl, fields, container, rfl, read, failed⟩
            · cases impossible
        | tuple | unit | union | enumeration =>
            rw [generic, shape] at failed
            cases failed
  · rintro ⟨generic, fields, container, shape, read, failed⟩
    simp only [generic, shape, read, failed, ok_bind, error_bind, Bool.false_eq_true, if_false]

/-- The derivation does not break off if the names of all fields that are shown spell constants. -/
theorem not_breaksOff
    (spells : ∀ container, Exposure.ofAttributes declaration.attributes = .ok container →
      ∀ field exposure, declaration.ShownField field exposure →
        spellsConstant (queryName exposure container field.name).toList = true)
    : ¬ declaration.BreaksOff constant := by
  intro breaks
  obtain ⟨-, fields, container, shape, read, failed⟩ := breaksOff_iff_exposeFields.mp breaks
  obtain ⟨before, field, after, exposed, rfl, -, failed⟩ := exposeFields_eq_error.mp failed
  obtain ⟨exposure, refused, -⟩ := exposeField?_eq_invalidConstant.mp failed
  have shown : declaration.ShownField field exposure :=
    ⟨⟨_, shape, by simp⟩, refused.read, refused.shows⟩
  have spelled := spells container read field exposure shown
  rw [refused.unspelled] at spelled
  cases spelled

/-- The derivation breaks off exactly at a field that is shown under a name that is new but spells no
constant, after fields that were all derived. It never does if no field is named but by itself, with an
identifier, and never if a rule alone names the fields and each is an identifier after the underscores
at its start. -/
theorem breaksOff_iff
    : (∀ constant, declaration.BreaksOff constant
        ↔ declaration.isGeneric = false
          ∧ ∃ container before field after exposed exposure,
              declaration.shape = .record (before ++ field :: after)
              ∧ Exposure.ofAttributes declaration.attributes = .ok container
              ∧ exposeFields container [] before = .ok exposed
              ∧ FieldRefused container (exposed.map ExposedField.queryName) field exposure
              ∧ constantName (queryName exposure container field.name) = constant)
      ∧ (declaration.NamesBy none →
          (∀ field exposure, declaration.ShownField field exposure →
            isIdentifier (withoutRawMark field.name.toList) = true) →
          ∀ constant, ¬ declaration.BreaksOff constant)
      ∧ ∀ rule : RenameRule, declaration.NamesBy rule →
          (∀ field exposure, declaration.ShownField field exposure →
            isIdentifier ((withoutRawMark field.name.toList).dropWhile (· == '_')) = true) →
          ∀ constant, ¬ declaration.BreaksOff constant := by
  refine ⟨fun constant => ?_, fun named identifiers constant => ?_,
    fun rule named identifiers constant => ?_⟩
  · rw [breaksOff_iff_exposeFields]
    constructor
    · rintro ⟨generic, fields, container, shape, read, failed⟩
      obtain ⟨before, field, after, exposed, rfl, done, failed⟩ := exposeFields_eq_error.mp failed
      obtain ⟨exposure, refused, same⟩ := exposeField?_eq_invalidConstant.mp failed
      exact ⟨generic, container, before, field, after, exposed, exposure, shape, read, done,
        refused, same⟩
    · rintro ⟨generic, container, before, field, after, exposed, exposure, shape, read, done,
        refused, same⟩
      refine ⟨generic, _, container, shape, read, exposeFields_eq_error.mpr ?_⟩
      exact ⟨before, field, after, exposed, rfl, done,
        exposeField?_eq_invalidConstant.mpr ⟨exposure, refused, same⟩⟩
  · refine not_breaksOff fun container read field exposure shown => ?_
    apply spellsConstant_of_isIdentifier
    rw [queryName, named.follows field exposure shown, named.rules container read,
      String.toList_ofList]
    exact identifiers field exposure shown
  · refine not_breaksOff fun container read field exposure shown => ?_
    apply spellsConstant_of_isIdentifier
    rw [queryName, named.follows field exposure shown, named.rules container read]
    apply isIdentifier_apply
    rw [String.toList_ofList]
    exact identifiers field exposure shown

/-- An invoice, whose price asks for a name of two words. -/
def invoice : TypeDeclaration where
  name := "Invoice"
  shape := .record [
    ⟨"number", "i64", [⟨"query", some [.word "Scalar"]⟩]⟩,
    ⟨"price", "f64", [⟨"query", some [.word "Scalar", .text "rename" "unit price"]⟩]⟩]

/-- A ledger, of whose one field the rule leaves no name. -/
def ledger : TypeDeclaration where
  name := "Ledger"
  attributes := [⟨"query", some [.text "rename_all" "camelCase"]⟩]
  shape := .record [⟨"__", "i64", [⟨"query", some [.word "Scalar"]⟩]⟩]

theorem namesBy_creation : creation.NamesBy none where
  rules container read := by
    cases read
    rfl
  follows field exposure shown := by
    obtain ⟨⟨fields, shape, among⟩, read, -⟩ := shown
    cases shape
    simp only [List.mem_cons, List.not_mem_nil, or_false] at among
    rcases among with rfl | rfl <;> cases read <;> rfl

/-- Creations keep the names of their fields and messages have theirs by a rule, so that the derivation
breaks off at none of them, but it does at the price of an invoice. -/
theorem breaksOff_iff_invoice
    : (∀ constant, ¬ creation.BreaksOff constant)
      ∧ (∀ constant, ¬ message.BreaksOff constant)
      ∧ invoice.BreaksOff "UNIT PRICE" := by
  refine ⟨breaksOff_iff.2.1 namesBy_creation ?_,
    breaksOff_iff.2.2 .snakeCase namesBy_message ?_, (breaksOff_iff.1 "UNIT PRICE").mpr ?_⟩
  · rintro field exposure ⟨⟨fields, shape, among⟩, -, -⟩
    cases shape
    revert field
    decide +kernel
  · rintro field exposure ⟨⟨fields, shape, among⟩, -, -⟩
    cases shape
    revert field
    decide +kernel
  · refine ⟨rfl, {}, [_], _, [], [⟨"number", "NUMBER", .scalar, "number"⟩],
      { exposedAs := some .scalar, rename := some "unit price" }, rfl, rfl, ?_, ?_, ?_⟩
    · decide +kernel
    · exact ⟨rfl, rfl, by decide, by decide +kernel⟩
    · decide +kernel

/-- The derivation breaks off at a name that a field asks for, and at one that a rule leaves empty. -/
theorem breaksOff_unspelled : invoice.BreaksOff "UNIT PRICE" ∧ ledger.BreaksOff "" := by
  unfold BreaksOff
  decide +kernel

end TypeDeclaration

end TypedQuery.Declaration
