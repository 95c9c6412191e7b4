import Mathlib
import TypedQuery.Proofs.Declaration.Addresses
import TypedQuery.Proofs.Declaration.Words

/-! Constants for the names of a record in queries. A constant keeps the letters of its name and the
places where words end in it, but neither the case of letters nor how words are set apart there. So
names that differ give one constant if they have the same words: a declaration with such names is
accepted although it asks for one constant twice. Names that all set words apart in the same way, as
those do that a rule makes, give a constant each.
-/

namespace TypedQuery.Declaration

open Text

-----------------------------------------------------------------------------------------
-- Words set apart
-----------------------------------------------------------------------------------------

/-- The rest of a name with an underscore wherever a word ends: for a hyphen, and before a character in
upper case that follows one that is not. -/
def separatedFrom (followsLower : Bool) : List Char → List Char
  | [] => []
  | character :: rest =>
      if isUppercase character then
        if followsLower then '_' :: character :: separatedFrom false rest
        else character :: separatedFrom false rest
      else if IsSeparator character then '_' :: separatedFrom false rest
      else character :: separatedFrom true rest

/-- The name with its words set apart by underscores. -/
def separated (name : String) : String :=
  String.ofList (separatedFrom false name.toList)

/-- The letters a to z are not in upper case. -/
theorem toUpper_of_isUppercase {character : Char} (upper : isUppercase character = true)
    : character.toUpper = character := by
  refine Char.toUpper_eq_of_not_isLower fun lower => ?_
  have small : character.toNat < 128 := by
    have within : 97 ≤ character.val ∧ character.val ≤ 122 := by simpa [Char.isLower] using lower
    exact Nat.lt_of_le_of_lt (UInt32.le_iff_toNat_le.mp within.2) (by decide)
  rw [(caseForms_of_toNat_lt small).2.2] at upper
  exact Char.not_isLower_of_isUpper upper lower

/-- A constant is its name with the words set apart and put in upper case, by induction on the name. -/
theorem constantFrom_eq_map (followsLower : Bool) (name : List Char)
    : constantFrom followsLower name = (separatedFrom followsLower name).map Char.toUpper := by
  have underscore : '_'.toUpper = '_' := rfl
  induction name generalizing followsLower with
  | nil => rfl
  | cons character rest ih =>
      rw [constantFrom, separatedFrom]
      split
      · next upper =>
        split <;> simp [ih, underscore, toUpper_of_isUppercase upper]
      · split <;> simp_all [IsSeparator]

theorem map_toUpper_eq_iff {left right : List Char}
    : left.map Char.toUpper = right.map Char.toUpper ↔ lowerLetters left = lowerLetters right := by
  have lowers (text : List Char) : lowerLetters (text.map Char.toUpper) = lowerLetters text := by
    simp [lowerLetters]
  have uppers (text : List Char) : (lowerLetters text).map Char.toUpper = text.map Char.toUpper := by
    simp [lowerLetters]
  constructor
  · intro same
    rw [← lowers left, same, lowers]
  · intro same
    rw [← uppers left, same, uppers]

/-- Names give the same constant exactly if they are equal, up to the case of letters, when their words
are set apart in the same way. -/
theorem constantName_eq_iff {left right : String}
    : constantName left = constantName right
        ↔ sameLetters (separated left) (separated right) = true := by
  rw [constantName, constantName, String.ofList_inj, constantFrom_eq_map, constantFrom_eq_map,
    map_toUpper_eq_iff, sameLetters, beq_iff_eq, separated, separated, String.toList_ofList,
    String.toList_ofList]

-----------------------------------------------------------------------------------------
-- Names that set words apart in one way
-----------------------------------------------------------------------------------------

/-- Underscores are all that setting words apart adds, by induction on the name. -/
theorem filter_separatedFrom (followsLower : Bool) (name : List Char)
    : (separatedFrom followsLower name).filter (· != '_')
        = name.filter (fun character => !decide (IsSeparator character)) := by
  induction name generalizing followsLower with
  | nil => rfl
  | cons character rest ih =>
      rw [separatedFrom]
      split
      · next upper =>
        have letter : ¬ IsSeparator character := not_isSeparator_of_isUppercase upper
        have kept : character ≠ '_' := fun same => letter (.inl same)
        split <;> simp [ih, letter, kept]
      · split
        · next separator => simp [ih, separator]
        · next letter =>
          have kept : character ≠ '_' := fun same => letter (.inl same)
          simp [ih, letter, kept]

/-- The letters of a name without separators can be told from those of its words set apart. -/
theorem lowerLetters_of_isJoined {name : String} (isJoined : IsJoined name.toList)
    : lowerLetters name.toList
        = (lowerLetters (separated name).toList).filter (· != '_') := by
  have underscore (character : Char) : (character.toLower != '_') = (character != '_') := by
    rw [Bool.eq_iff_iff, bne_iff_ne, bne_iff_ne, ne_eq, toLower_eq_iff rfl]
  have whole : name.toList.filter (fun character => !decide (IsSeparator character)) = name.toList :=
    List.filter_eq_self.mpr fun character member => by simp [isJoined character member]
  calc lowerLetters name.toList
      = lowerLetters ((separatedFrom false name.toList).filter (· != '_')) := by
        rw [filter_separatedFrom, whole]
    _ = (lowerLetters (separatedFrom false name.toList)).filter (· != '_') := by
        rw [lowerLetters, lowerLetters, List.filter_map]
        simp [Function.comp_def, underscore]
    _ = (lowerLetters (separated name).toList).filter (· != '_') := by
        rw [separated, String.toList_ofList]

/-- Nothing is added to characters among which no word ends, by induction on these. -/
theorem exists_separatedFrom_plain {letters : List Char} (isJoined : IsJoined letters)
    (plain : ∀ character ∈ letters, isUppercase character = false) (followsLower : Bool)
    : ∃ goesOn, ∀ rest,
        separatedFrom followsLower (letters ++ rest) = letters ++ separatedFrom goesOn rest := by
  induction letters generalizing followsLower with
  | nil => exact ⟨followsLower, fun rest => rfl⟩
  | cons character others ih =>
      obtain ⟨letter, isJoined⟩ := List.forall_mem_cons.mp isJoined
      obtain ⟨lower, plain⟩ := List.forall_mem_cons.mp plain
      obtain ⟨goesOn, same⟩ := ih isJoined plain true
      exact ⟨goesOn, fun rest => by simp [separatedFrom, lower, letter, same]⟩

theorem exists_separatedFrom_word {word : List Char} (isWord : IsWord word)
    (isJoined : IsJoined word)
    : ∃ goesOn, ∀ rest, separatedFrom false (word ++ rest) = word ++ separatedFrom goesOn rest := by
  cases word with
  | nil => exact ⟨false, fun rest => rfl⟩
  | cons first others =>
      obtain ⟨letter, isJoined⟩ := List.forall_mem_cons.mp isJoined
      obtain ⟨goesOn, same⟩ := exists_separatedFrom_plain isJoined isWord (!isUppercase first)
      refine ⟨goesOn, fun rest => ?_⟩
      cases upper : isUppercase first <;>
        simp [separatedFrom, upper, letter] <;> simpa [upper] using same rest

/-- Words that underscores join are set apart already, by induction on the words. -/
theorem separatedFrom_joinedByUnderscore {words : List (List Char)}
    (apart : ∀ word ∈ words, IsWord word ∧ IsJoined word)
    : separatedFrom false (joinedByUnderscore words) = joinedByUnderscore words := by
  induction words with
  | nil => rfl
  | cons word rest ih =>
      obtain ⟨⟨isWord, isJoined⟩, others⟩ := List.forall_mem_cons.mp apart
      obtain ⟨goesOn, same⟩ := exists_separatedFrom_word isWord isJoined
      cases rest with
      | nil => simpa [joinedByUnderscore, separatedFrom] using same []
      | cons next later =>
          rw [joinedByUnderscore, same, separatedFrom, ih others]
          · have lower := mt not_isSeparator_of_isUppercase (not_not_intro (.inl rfl))
            rw [if_neg lower, if_pos (.inl rfl)]
          · simp

/-- The rule that joins words with underscores sets them all apart. -/
theorem separated_apply_snakeCase {name : String} (unhyphenated : '-' ∉ name.toList)
    : separated (RenameRule.snakeCase.apply name) = RenameRule.snakeCase.apply name := by
  have apart : ∀ word ∈ (words name.toList).map lowered, IsWord word ∧ IsJoined word := by
    intro word member
    obtain ⟨origin, listed, rfl⟩ := List.mem_map.mp member
    exact ⟨isWord_lowered (isWord_of_mem_words listed),
      isJoined_lowered (isJoined_of_mem_words unhyphenated listed)⟩
  rw [separated, RenameRule.apply, String.toList_ofList, RenameRule.applyToWords,
    separatedFrom_joinedByUnderscore apart]

theorem isJoined_apply {rule : RenameRule} (merges : rule ≠ .snakeCase) {name : String}
    (unhyphenated : '-' ∉ name.toList)
    : IsJoined (rule.apply name).toList := by
  rw [RenameRule.apply, String.toList_ofList]
  exact isJoined_applyToWords merges fun word member => isJoined_of_mem_words unhyphenated member

-----------------------------------------------------------------------------------------
-- Constants of records
-----------------------------------------------------------------------------------------

/-- Every entry is that of one of the fields, by induction on the fields. -/
theorem FieldsExposed.exists_field {container : Exposure} {names : List String}
    {fields : List Field} {exposed : List ExposedField}
    (steps : FieldsExposed container names fields exposed)
    : ∀ entry ∈ exposed, ∃ field ∈ fields, ∃ taken, FieldExposed container taken field entry := by
  induction steps with
  | nil => simp
  | hidden _ _ ih =>
      intro entry member
      obtain ⟨field, among, taken, step⟩ := ih entry member
      exact ⟨field, List.mem_cons_of_mem _ among, taken, step⟩
  | shown step _ ih =>
      intro entry member
      rcases List.mem_cons.mp member with rfl | later
      · exact ⟨_, List.mem_cons_self, _, step⟩
      · obtain ⟨field, among, taken, step⟩ := ih entry later
        exact ⟨field, List.mem_cons_of_mem _ among, taken, step⟩

namespace RecordSchema

/-- The constants that the schema defines. -/
def constants (record : RecordSchema) : List String :=
  record.fields.map ExposedField.constant

end RecordSchema

/-- The names differ, up to the case of letters, when their words are set apart in the same way. -/
def DifferSeparated (names : List String) : Prop :=
  names.Pairwise fun name other => sameLetters (separated name) (separated other) = false

theorem nodup_map_constantName {names : List String}
    : (names.map constantName).Nodup ↔ DifferSeparated names := by
  rw [List.Nodup, List.pairwise_map]
  refine ⟨List.Pairwise.imp fun apart => ?_, List.Pairwise.imp fun apart => ?_⟩
  · exact Bool.eq_false_iff.mpr (mt constantName_eq_iff.mpr apart)
  · exact mt constantName_eq_iff.mp (Bool.eq_false_iff.mp apart)

/-- Names differ with their words set apart if they differ and none has a separator in it. -/
theorem differSeparated_of_isJoined {names : List String}
    (differ : names.Pairwise fun name other => sameLetters name other = false)
    (isJoined : ∀ name ∈ names, IsJoined name.toList)
    : DifferSeparated names := by
  refine differ.imp_of_mem fun {name other} member another apart => ?_
  by_contra same
  rw [Bool.not_eq_false, sameLetters, beq_iff_eq] at same
  rw [sameLetters, lowerLetters_of_isJoined (isJoined name member),
    lowerLetters_of_isJoined (isJoined other another), same] at apart
  simp at apart

theorem differSeparated_of_separated {names : List String}
    (differ : names.Pairwise fun name other => sameLetters name other = false)
    (apart : ∀ name ∈ names, separated name = name)
    : DifferSeparated names :=
  differ.imp_of_mem fun {name other} member another differs => by
    rw [apart name member, apart other another, differs]

namespace TypeDeclaration

/-- A field of the declaration asks with these wishes to be shown. -/
structure ShownField (declaration : TypeDeclaration) (field : Field) (exposure : Exposure) : Prop where
  among : ∃ fields, declaration.shape = .record fields ∧ field ∈ fields
  read : Exposure.ofAttributes field.attributes = .ok exposure
  shows : exposure.shows = true

/-- The rule for the whole declaration, if it has one, is all that names the fields that are shown: none
of these asks for a name of its own. -/
structure NamesBy (declaration : TypeDeclaration) (rule? : Option RenameRule) : Prop where
  rules : ∀ container, Exposure.ofAttributes declaration.attributes = .ok container →
    container.renameAll = rule?
  follows : ∀ field exposure, declaration.ShownField field exposure → exposure.rename = none

/-- No field that is shown has a hyphen in its name, as no identifier does. -/
def Unhyphenated (declaration : TypeDeclaration) : Prop :=
  ∀ field exposure, declaration.ShownField field exposure → '-' ∉ field.name.toList

/-- Every name of a record is one that the rule makes. -/
theorem NamesBy.exists_apply {declaration : TypeDeclaration} {rule : RenameRule}
    {record : RecordSchema} (named : declaration.NamesBy rule)
    (unhyphenated : declaration.Unhyphenated) (derived : declaration.recordSchema = .ok record)
    : ∀ name ∈ record.names, ∃ base : String, '-' ∉ base.toList ∧ rule.apply base = name := by
  obtain ⟨fields, container, shape, read, steps⟩ := exists_container_fieldsExposed derived
  intro name listed
  obtain ⟨entry, member, rfl⟩ := List.mem_map.mp listed
  obtain ⟨field, among, taken, step⟩ := steps.exists_field entry member
  cases step with
  | shown wishes shows _ called =>
      have shown : declaration.ShownField field _ := ⟨⟨fields, shape, among⟩, wishes, shows⟩
      refine ⟨String.ofList (withoutRawMark field.name.toList), ?_, ?_⟩
      · rw [String.toList_ofList]
        exact mt (fun hyphen => (withoutRawMark_suffix _).subset hyphen)
          (unhyphenated field _ shown)
      · rw [← called, queryName, named.follows field _ shown, named.rules container read]

/-- A schema has the constants of its names. These differ from each other exactly if the names do when
their words are set apart in the same way. They do if no name has a separator in it, if all names have
their words set apart by underscores already, and if a rule for the whole declaration names all
fields and none of these has a hyphen in its own name. -/
theorem recordSchema_constants {declaration : TypeDeclaration} {record : RecordSchema}
    (derived : declaration.recordSchema = .ok record)
    : record.constants = record.names.map constantName
      ∧ (record.constants.Nodup ↔ DifferSeparated record.names)
      ∧ ((∀ name ∈ record.names, IsJoined name.toList) → record.constants.Nodup)
      ∧ ((∀ name ∈ record.names, separated name = name) → record.constants.Nodup)
      ∧ ∀ rule : RenameRule, declaration.NamesBy rule → declaration.Unhyphenated →
          record.constants.Nodup := by
  obtain ⟨fields, container, -, steps⟩ := exists_fieldsExposed derived
  have differ : record.names.Pairwise fun name other => sameLetters name other = false :=
    List.pairwise_map.mpr steps.names_differ.2
  have constants : record.constants = record.names.map constantName := by
    rw [RecordSchema.constants, RecordSchema.names, List.map_map]
    refine List.map_congr_left fun entry member => ?_
    obtain ⟨field, -, taken, step⟩ := steps.exists_field entry member
    cases step
    rfl
  have distinct : record.constants.Nodup ↔ DifferSeparated record.names := by
    rw [constants, nodup_map_constantName]
  have joined (isJoined : ∀ name ∈ record.names, IsJoined name.toList) : record.constants.Nodup :=
    distinct.mpr (differSeparated_of_isJoined differ isJoined)
  have apart (separated : ∀ name ∈ record.names, separated name = name) : record.constants.Nodup :=
    distinct.mpr (differSeparated_of_separated differ separated)
  refine ⟨constants, distinct, joined, apart, fun rule named unhyphenated => ?_⟩
  have ruled := named.exists_apply unhyphenated derived
  by_cases merges : rule = .snakeCase
  · refine apart fun name listed => ?_
    obtain ⟨base, unhyphenated, rfl⟩ := ruled name listed
    rw [merges, separated_apply_snakeCase unhyphenated]
  · refine joined fun name listed => ?_
    obtain ⟨base, unhyphenated, rfl⟩ := ruled name listed
    exact isJoined_apply merges unhyphenated

/-- A message, of which queries do not see the key. -/
def message : TypeDeclaration where
  name := "Message"
  attributes := [⟨"query", some [.text "rename_all" "snake_case"]⟩]
  shape := .record [
    ⟨"sentAt", "DateTime", [⟨"query", some [.word "Scalar"]⟩]⟩,
    ⟨"sent_to", "Vec<User>", [⟨"query", some [.word "List"]⟩]⟩,
    ⟨"r#type", "MessageType", [⟨"query", some [.word "Enum"]⟩]⟩,
    ⟨"key", "String", [⟨"query", some [.word "skip", .text "rename" "sent-at"]⟩]⟩]

theorem namesBy_message : message.NamesBy RenameRule.snakeCase where
  rules container read := by
    cases read
    rfl
  follows field exposure shown := by
    obtain ⟨⟨fields, shape, among⟩, read, shows⟩ := shown
    cases shape
    simp only [List.mem_cons, List.not_mem_nil, or_false] at among
    rcases among with rfl | rfl | rfl | rfl <;> cases read
    · rfl
    · rfl
    · rfl
    · cases shows

theorem unhyphenated_message : message.Unhyphenated := by
  rintro field exposure ⟨⟨fields, shape, among⟩, -, -⟩
  cases shape
  revert field
  decide

/-- The rule names all fields of a message, so its constants differ. -/
theorem recordSchema_constants_message
    : ∃ record, message.recordSchema = .ok record
        ∧ record.names = ["sent_at", "sent_to", "type"]
        ∧ record.constants = ["SENT_AT", "SENT_TO", "TYPE"]
        ∧ record.constants.Nodup := by
  have derived : message.recordSchema
      = .ok ⟨"Message",
          [⟨"sent_at", "SENT_AT", .scalar, "sentAt"⟩,
            ⟨"sent_to", "SENT_TO", .collection, "sent_to"⟩,
            ⟨"type", "TYPE", .enumeration, "r#type"⟩]⟩ := by
    decide +kernel
  obtain ⟨-, -, -, -, ruled⟩ := recordSchema_constants derived
  exact ⟨_, derived, rfl, rfl, ruled .snakeCase namesBy_message unhyphenated_message⟩

/-- Times at which something was created, in two fields whose names have the same words. -/
def creation : TypeDeclaration where
  name := "Creation"
  shape := .record [
    ⟨"created_at", "DateTime", [⟨"query", some [.word "Scalar"]⟩]⟩,
    ⟨"createdAt", "String", [⟨"query", some [.word "Scalar"]⟩]⟩]

/-- The names of a creation differ, so it is accepted, but they give one constant twice. -/
theorem recordSchema_constants_creation
    : ∃ record, creation.recordSchema = .ok record
        ∧ record.names = ["created_at", "createdAt"]
        ∧ record.constants = ["CREATED_AT", "CREATED_AT"]
        ∧ ¬ record.constants.Nodup := by
  have derived : creation.recordSchema
      = .ok ⟨"Creation",
          [⟨"created_at", "CREATED_AT", .scalar, "created_at"⟩,
            ⟨"createdAt", "CREATED_AT", .scalar, "createdAt"⟩]⟩ := by
    decide +kernel
  exact ⟨_, derived, rfl, rfl, by decide⟩

end TypeDeclaration

end TypedQuery.Declaration
