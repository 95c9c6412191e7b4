import Mathlib.Data.List.ReduceOption
import TypedQuery.Declaration.Record
import TypedQuery.Proofs.Fallible

/-! Which fields of a record queries can see. A field has to ask for it, with a word for the kind of
property that it is to be, and must not say to skip it. Of several attributes of a field only the
first one is read, so a word in a later one is lost, be it one to show the field or one to hide it.
-/

namespace TypedQuery.Declaration

open Text

-----------------------------------------------------------------------------------------
-- Words of attributes
-----------------------------------------------------------------------------------------

/-- The word that the item is, if it is nothing more. -/
def AttributeItem.word? : AttributeItem → Option String
  | .word path => soleWord? path
  | _ => none

namespace Attribute

/-- The attribute is one of queries. -/
def isQuery (candidate : Attribute) : Bool :=
  soleWord? candidate.name == some "query"

/-- The words among the items of the attribute. -/
def words (given : Attribute) : List String :=
  (given.items.getD []).filterMap AttributeItem.word?

end Attribute

/-- One of the words names a kind of property. -/
def givesKind (words : List String) : Bool :=
  words.any fun word => (ExposedAs.ofWord? word).isSome

def saysSkip (words : List String) : Bool :=
  words.contains "skip"

/-- The words ask for a field to be shown. -/
def asksToShow (words : List String) : Bool :=
  givesKind words && !saysSkip words

namespace Field

/-- The attributes of queries that a field has, among whatever others it has. -/
def queryAttributes (field : Field) : List Attribute :=
  field.attributes.filter Attribute.isQuery

/-- The words of all attributes of queries, taken together. -/
def words (field : Field) : List String :=
  field.queryAttributes.flatMap Attribute.words

/-- The words of the first attribute of queries. -/
def firstWords (field : Field) : List String :=
  (field.queryAttributes.head?.map Attribute.words).getD []

/-- The words of the other attributes of queries. -/
def laterWords (field : Field) : List String :=
  field.queryAttributes.tail.flatMap Attribute.words

theorem words_eq (field : Field) : field.words = field.firstWords ++ field.laterWords := by
  unfold words firstWords laterWords
  cases field.queryAttributes <;> simp

/-- The words of the first attribute decide for all of them if the others neither say to skip nor name a
kind where the first one does not. -/
theorem asksToShow_words {field : Field}
    (skips : saysSkip field.laterWords = true → saysSkip field.firstWords = true)
    (kinds : givesKind field.laterWords = true → givesKind field.firstWords = true)
    : asksToShow field.words = asksToShow field.firstWords := by
  have skip : saysSkip field.words = (saysSkip field.firstWords || saysSkip field.laterWords) := by
    simp [saysSkip, words_eq]
  have kind : givesKind field.words = (givesKind field.firstWords || givesKind field.laterWords) := by
    simp [givesKind, words_eq]
  rw [asksToShow, skip, kind, ← Bool.eq_self_or.mpr skips, ← Bool.eq_self_or.mpr kinds, asksToShow]

end Field

-----------------------------------------------------------------------------------------
-- Wishes
-----------------------------------------------------------------------------------------

namespace Exposure

/-- The wishes let the field be shown. -/
def shows (exposure : Exposure) : Bool :=
  exposure.exposedAs.isSome && !exposure.skip

/-- An item adds the wish that its word stands for, if it is a word, and takes none away. -/
theorem add_eq_ok {exposure next : Exposure} {item : AttributeItem}
    (added : exposure.add item = .ok next)
    : next.exposedAs.isSome = (exposure.exposedAs.isSome || givesKind item.word?.toList)
      ∧ next.skip = (exposure.skip || saysSkip item.word?.toList) := by
  cases item with
  | word path =>
      simp only [add, AttributeItem.word?] at added ⊢
      split at added
      · cases added
      · next sole =>
        cases added
        simp [sole, givesKind, saysSkip, ExposedAs.ofWord?]
      · next word other sole =>
        split at added
        · next exposedAs named =>
          cases added
          have kept : word ≠ "skip" := by
            rintro rfl
            exact other rfl
          simp [sole, givesKind, saysSkip, named, Ne.symm kept]
        · cases added
  | text name text =>
      simp only [add] at added
      split at added
      · cases added
        simp [AttributeItem.word?, givesKind, saysSkip]
      · split at added
        · cases added
          simp [AttributeItem.word?, givesKind, saysSkip]
        · cases added
      · cases added
  | literal | nested => cases added

/-- Items add up to the wishes that their words stand for, by induction on the items. -/
theorem foldlM_add_eq_ok {start exposure : Exposure} {items : List AttributeItem}
    (read : items.foldlM add start = .ok exposure)
    : exposure.exposedAs.isSome
        = (start.exposedAs.isSome || givesKind (items.filterMap AttributeItem.word?))
      ∧ exposure.skip = (start.skip || saysSkip (items.filterMap AttributeItem.word?)) := by
  induction items generalizing start with
  | nil =>
      cases read
      simp [givesKind, saysSkip]
  | cons item rest ih =>
      rw [List.foldlM_cons, bind_eq_ok] at read
      obtain ⟨next, added, others⟩ := read
      obtain ⟨kind, skip⟩ := add_eq_ok added
      rw [(ih others).1, (ih others).2, kind, skip]
      cases word : item.word? <;>
        simp [word, givesKind, saysSkip, Bool.or_assoc]

/-- The wishes of a field are those that the words of its first attribute of queries stand for. -/
theorem shows_of_ofAttributes {field : Field} {exposure : Exposure}
    (read : ofAttributes field.attributes = .ok exposure)
    : exposure.shows = asksToShow field.firstWords := by
  have first : field.queryAttributes.head? = field.attributes.find? Attribute.isQuery :=
    List.head?_filter
  unfold ofAttributes at read
  rw [Field.firstWords, first]
  split at read
  · next absent =>
    cases read
    rw [show field.attributes.find? Attribute.isQuery = none from absent]
    rfl
  · cases read
  · next name items found =>
    rw [show field.attributes.find? Attribute.isQuery = some ⟨name, some items⟩ from found]
    obtain ⟨kind, skip⟩ := foldlM_add_eq_ok read
    rw [shows, kind, skip]
    rfl

end Exposure

-----------------------------------------------------------------------------------------
-- Exposed fields
-----------------------------------------------------------------------------------------

/-- What becomes of a field after fields with the given names: it is hidden, or it gets a name that is
new up to the case of letters and whose constant is an identifier. -/
inductive FieldExposed (container : Exposure) (names : List String) (field : Field)
    : Option ExposedField → Prop
  | hidden {exposure : Exposure}
    (read : Exposure.ofAttributes field.attributes = .ok exposure)
    (hides : exposure.shows = false)
    : FieldExposed container names field none
  | shown {exposure : Exposure} {exposedAs : ExposedAs} {name : String}
    (read : Exposure.ofAttributes field.attributes = .ok exposure)
    (shows : exposure.shows = true) (kind : exposure.exposedAs = some exposedAs)
    (named : queryName exposure container field.name = name)
    (fresh : ∀ other ∈ names, sameLetters other name = false)
    (identifies : isIdentifier (constantName name).toList = true)
    : FieldExposed container names field
        (some ⟨name, constantName name, .ofKind exposedAs (isOptionalType field.type), field.name⟩)

/-- What becomes of fields, one after the other; a field that is shown adds its name to those that are
taken. -/
inductive FieldsExposed (container : Exposure)
    : List String → List Field → List ExposedField → Prop
  | nil {names} : FieldsExposed container names [] []
  | hidden {names field rest exposed} (step : FieldExposed container names field none)
    (others : FieldsExposed container names rest exposed)
    : FieldsExposed container names (field :: rest) exposed
  | shown {names field rest entry exposed} (step : FieldExposed container names field (some entry))
    (others : FieldsExposed container (names ++ [entry.queryName]) rest exposed)
    : FieldsExposed container names (field :: rest) (entry :: exposed)

theorem fieldExposed_of_exposeField? {container : Exposure} {names : List String} {field : Field}
    {shown? : Option ExposedField} (made : exposeField? container names field = .ok shown?)
    : FieldExposed container names field shown? := by
  simp only [exposeField?, bind_eq_ok] at made
  obtain ⟨exposure, read, made⟩ := made
  cases skips : exposure.skip with
  | true =>
      simp only [skips, if_true] at made
      cases made
      exact .hidden read (by simp [Exposure.shows, skips])
  | false =>
      cases kind : exposure.exposedAs with
      | none =>
          simp only [skips, kind, Bool.false_eq_true, if_false] at made
          cases made
          exact .hidden read (by simp [Exposure.shows, kind])
      | some exposedAs =>
          simp only [skips, kind, Bool.false_eq_true, if_false] at made
          split at made
          · cases made
          · next unique =>
            split at made
            · cases made
            · next identifies =>
              cases made
              refine .shown read (by simp [Exposure.shows, kind, skips]) kind rfl ?_
                (by simpa using identifies)
              simpa using unique

/-- By induction on the fields. -/
theorem fieldsExposed_of_exposeFields {container : Exposure} {names : List String}
    {fields : List Field} {exposed : List ExposedField}
    (made : exposeFields container names fields = .ok exposed)
    : FieldsExposed container names fields exposed := by
  induction fields generalizing names exposed with
  | nil =>
      cases made
      exact .nil
  | cons field rest ih =>
      simp only [exposeFields, bind_eq_ok] at made
      obtain ⟨shown?, step, made⟩ := made
      have step := fieldExposed_of_exposeField? step
      cases shown? with
      | none => exact .hidden step (ih made)
      | some entry =>
          simp only [bind_eq_ok] at made
          obtain ⟨others, made, same⟩ := made
          cases same
          exact .shown step (ih made)

/-- The entry of a field reads this very field, and is there if the words of the first attribute ask
for it. -/
theorem FieldExposed.asked {container : Exposure} {names : List String} {field : Field}
    {shown? : Option ExposedField} (step : FieldExposed container names field shown?)
    : (∀ entry ∈ shown?, entry.field = field.name)
      ∧ shown?.isSome = asksToShow field.firstWords := by
  cases step with
  | hidden read hides => simp [← Exposure.shows_of_ofAttributes read, hides]
  | shown read shows => simp [← Exposure.shows_of_ofAttributes read, shows]

/-- Every field has its own entry or none, and in this order these are the entries that are there. By
induction on the fields. -/
theorem FieldsExposed.exists_entries {container : Exposure} {names : List String}
    {fields : List Field} {exposed : List ExposedField}
    (steps : FieldsExposed container names fields exposed)
    : ∃ entries : List (Option ExposedField), entries.reduceOption = exposed
        ∧ List.Forall₂
            (fun field shown? =>
              (∀ entry ∈ shown?, entry.field = field.name)
              ∧ shown?.isSome = asksToShow field.firstWords)
            fields entries := by
  induction steps with
  | nil => exact ⟨[], rfl, .nil⟩
  | hidden step _ ih =>
      obtain ⟨entries, rfl, placed⟩ := ih
      exact ⟨none :: entries, rfl, .cons step.asked placed⟩
  | shown step _ ih =>
      obtain ⟨entries, rfl, placed⟩ := ih
      exact ⟨some _ :: entries, rfl, .cons step.asked placed⟩

namespace TypeDeclaration

/-- A schema is derived from a record without parameters, from the wishes of the declaration, and from
what becomes of its fields. -/
theorem exists_container_fieldsExposed {declaration : TypeDeclaration} {record : RecordSchema}
    (derived : declaration.recordSchema = .ok record)
    : ∃ fields container, declaration.shape = .record fields
        ∧ Exposure.ofAttributes declaration.attributes = .ok container
        ∧ FieldsExposed container [] fields record.fields := by
  unfold recordSchema at derived
  cases generic : declaration.isGeneric with
  | true => simp [generic, bind_eq_ok] at derived
  | false =>
      cases shape : declaration.shape with
      | record fields =>
          simp only [generic, shape, Bool.false_eq_true, if_false, bind_eq_ok] at derived
          obtain ⟨container, read, exposed, made, same⟩ := derived
          cases same
          exact ⟨fields, container, rfl, read, fieldsExposed_of_exposeFields made⟩
      | tuple | unit | union | enumeration => simp [generic, shape] at derived

theorem exists_fieldsExposed {declaration : TypeDeclaration} {record : RecordSchema}
    (derived : declaration.recordSchema = .ok record)
    : ∃ fields container, declaration.shape = .record fields
        ∧ FieldsExposed container [] fields record.fields := by
  obtain ⟨fields, container, shape, -, steps⟩ := exists_container_fieldsExposed derived
  exact ⟨fields, container, shape, steps⟩

/-- A schema has a case and a name for a field exactly if the words of the first attribute of queries
ask for it, and none for any other field. This is what all words of the field ask for together, unless
only later attributes say to skip it, or only later ones name a kind. -/
theorem recordSchema_arms {declaration : TypeDeclaration} {record : RecordSchema}
    {fields : List Field} (derived : declaration.recordSchema = .ok record)
    (shape : declaration.shape = .record fields)
    : ∃ entries : List (Option PropertyArm),
        record.arms = entries.reduceOption
        ∧ record.names = entries.reduceOption.map PropertyArm.name
        ∧ List.Forall₂
            (fun field shown? =>
              (∀ arm ∈ shown?, arm.field = field.name)
              ∧ shown?.isSome = asksToShow field.firstWords
              ∧ ((saysSkip field.laterWords = true → saysSkip field.firstWords = true) →
                  (givesKind field.laterWords = true → givesKind field.firstWords = true) →
                  shown?.isSome = asksToShow field.words))
            fields entries := by
  obtain ⟨others, container, same, steps⟩ := exists_fieldsExposed derived
  cases shape.symm.trans same
  obtain ⟨entries, kept, placed⟩ := steps.exists_entries
  have arms : record.arms = (entries.map (Option.map ExposedField.arm)).reduceOption := by
    rw [List.reduceOption_map, kept, RecordSchema.arms]
  refine ⟨entries.map (Option.map ExposedField.arm), arms, ?_, ?_⟩
  · rw [← arms, RecordSchema.arms, RecordSchema.names, List.map_map]
    rfl
  · rw [List.forall₂_map_right_iff]
    refine placed.imp fun field shown? ⟨reads, asked⟩ => ⟨?_, ?_, fun skips kinds => ?_⟩
    · intro arm among
      obtain ⟨entry, present, rfl⟩ := Option.map_eq_some_iff.mp among
      exact reads entry present
    · rw [Option.isSome_map, asked]
    · rw [Option.isSome_map, asked, Field.asksToShow_words skips kinds]

/-- The fields of a person, of which the age is hidden although it has a kind, and the tags are named
in an attribute too late. -/
def personFields : List Field :=
  [⟨"name", "String", [⟨"doc", none⟩, ⟨"query", some [.word "Scalar"]⟩]⟩,
    ⟨"age", "u32", [⟨"query", some [.word "skip", .word "Scalar"]⟩]⟩,
    ⟨"tags", "Vec<Tag>",
      [⟨"query", some [.word "Scalar", .word "List"]⟩,
        ⟨"query", some [.text "rename" "labels"]⟩]⟩,
    ⟨"token", "String", []⟩]

def person : TypeDeclaration where
  name := "Person"
  shape := .record personFields

/-- The schema of a person has cases for the name and the tags only. -/
theorem recordSchema_arms_person
    : ∃ record, person.recordSchema = .ok record
        ∧ record.arms = [⟨"name", .scalar, "name"⟩, ⟨"tags", .collection, "tags"⟩]
        ∧ personFields.map (fun field => asksToShow field.words) = [true, false, true, false]
        ∧ ∃ entries : List (Option PropertyArm),
            record.arms = entries.reduceOption
            ∧ List.Forall₂ (fun field shown? => shown?.isSome = asksToShow field.words)
                personFields entries := by
  have derived : person.recordSchema
      = .ok ⟨"Person",
          [⟨"name", "NAME", .scalar, "name"⟩, ⟨"tags", "TAGS", .collection, "tags"⟩]⟩ := by
    decide +kernel
  refine ⟨_, derived, rfl, by decide +kernel, ?_⟩
  obtain ⟨entries, arms, -, placed⟩ := recordSchema_arms derived rfl
  obtain _ | ⟨⟨-, -, name⟩, _ | ⟨⟨-, -, age⟩, _ | ⟨⟨-, -, tags⟩, _ | ⟨⟨-, -, token⟩, _ | _⟩⟩⟩⟩ :=
    placed
  refine ⟨_, arms, .cons (name ?_ ?_) <| .cons (age ?_ ?_) <| .cons (tags ?_ ?_) <|
    .cons (token ?_ ?_) .nil⟩
  all_goals decide +kernel

/-- The fields of an account, one of which is to be skipped and one of which is to be shown by an
attribute that is not the first. -/
def accountFields : List Field :=
  [⟨"secret", "String", [⟨"query", some [.word "Scalar"]⟩, ⟨"query", some [.word "skip"]⟩]⟩,
    ⟨"note", "String",
      [⟨"query", some [.text "rename" "remark"]⟩, ⟨"query", some [.word "Scalar"]⟩]⟩]

/-- Of all words of the fields together, the first ones would decide wrongly: the secret of an account,
which says to skip it, is shown, and the note, which has a kind, is hidden. -/
theorem recordSchema_arms_laterWords
    : accountFields.map (fun field => asksToShow field.words) = [false, true]
      ∧ (TypeDeclaration.recordSchema ⟨"Account", false, [], .record accountFields⟩).toOption.map
          (fun record => (record.names, record.arms))
        = some (["secret"], [⟨"secret", .scalar, "secret"⟩]) := by
  decide +kernel

end TypeDeclaration

end TypedQuery.Declaration
