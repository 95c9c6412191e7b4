import TypedQuery.Proofs.Accessor.Language
import TypedQuery.Proofs.Accessor.Letters
import TypedQuery.Proofs.Declaration.Exposure

/-! Names of exposed fields as addresses. A name that gives a constant has nothing in it that means more
than itself in a path. And since no two names are equal up to the case of letters, a name leads to its
own field in whatever case it is written.
-/

namespace TypedQuery.Declaration

open Text

-----------------------------------------------------------------------------------------
-- Names that give constants
-----------------------------------------------------------------------------------------

/-- A character that has no case and separates no words is also in the constant, by induction on the
rest of the name. -/
theorem mem_constantFrom {mark : Char} (plain : isUppercase mark = false)
    (caseless : mark.toUpper = mark) (joins : mark ≠ '_' ∧ mark ≠ '-') {followsLower : Bool}
    {name : List Char} (member : mark ∈ name)
    : mark ∈ constantFrom followsLower name := by
  induction name generalizing followsLower with
  | nil => cases member
  | cons character rest ih =>
      rw [constantFrom]
      rcases List.mem_cons.mp member with rfl | later
      · simp [plain, caseless, joins]
      · have goesOn (follows : Bool) : mark ∈ constantFrom follows rest := ih later
        split
        · split <;> simp [goesOn]
        · split <;> simp [goesOn]

theorem not_mem_of_isIdentifier {mark : Char} (starts : startsIdentifier mark = false)
    (continues : continuesIdentifier mark = false) {text : List Char}
    (identifies : isIdentifier text = true)
    : mark ∉ text := by
  cases text with
  | nil => cases identifies
  | cons first rest =>
      obtain ⟨begun, others⟩ := Bool.and_eq_true_iff.mp identifies
      rintro (_ | ⟨_, later⟩)
      · simp [begun] at starts
      · simp [List.all_eq_true.mp others mark later] at continues

/-- Names whose constants are identifiers can be written in paths. -/
theorem isName_of_isIdentifier {name : String}
    (identifies : isIdentifier (constantName name).toList = true)
    : Path.IsName name := by
  rw [constantName, String.toList_ofList] at identifies
  have lacks {mark : Char} (plain : isUppercase mark = false) (caseless : mark.toUpper = mark)
      (joins : mark ≠ '_' ∧ mark ≠ '-') (starts : startsIdentifier mark = false)
      (continues : continuesIdentifier mark = false)
      : mark ∉ name.toList :=
    mt (mem_constantFrom plain caseless joins)
      (not_mem_of_isIdentifier starts continues identifies)
  refine ⟨?_, ?_, ?_, ?_⟩
  · rintro rfl
    cases identifies
  all_goals apply lacks <;> decide +kernel

-----------------------------------------------------------------------------------------
-- Fields that differ in name
-----------------------------------------------------------------------------------------

/-- Names after the given ones differ from these and from each other, by induction on the fields: a
name that is taken stays so. -/
theorem FieldsExposed.names_differ {container : Exposure} {names : List String}
    {fields : List Field} {exposed : List ExposedField}
    (steps : FieldsExposed container names fields exposed)
    : (∀ entry ∈ exposed, ∀ other ∈ names, sameLetters other entry.queryName = false)
      ∧ exposed.Pairwise
          (fun first second => sameLetters first.queryName second.queryName = false) := by
  induction steps with
  | nil => exact ⟨by simp, .nil⟩
  | hidden _ _ ih => exact ih
  | shown step _ ih =>
      obtain ⟨fresh, differ⟩ := ih
      refine ⟨List.forall_mem_cons.mpr ⟨?_, ?_⟩, .cons ?_ differ⟩
      · cases step with
        | shown _ _ _ _ new => exact new
      · intro later member other taken
        exact fresh later member other (List.mem_append_left _ taken)
      · intro later member
        exact fresh later member _ (by simp)

/-- By induction on the fields. -/
theorem FieldsExposed.isName {container : Exposure} {names : List String}
    {fields : List Field} {exposed : List ExposedField}
    (steps : FieldsExposed container names fields exposed)
    : ∀ entry ∈ exposed, Path.IsName entry.queryName := by
  induction steps with
  | nil => simp
  | hidden _ _ ih => exact ih
  | shown step _ ih =>
      refine List.forall_mem_cons.mpr ⟨?_, ih⟩
      cases step with
      | shown _ _ _ _ _ identifies => exact isName_of_isIdentifier identifies

-----------------------------------------------------------------------------------------
-- Finding a property
-----------------------------------------------------------------------------------------

namespace RecordSchema

variable {record : RecordSchema} {arm other : PropertyArm} {segment : String}

theorem map_name_arms (record : RecordSchema) : record.arms.map PropertyArm.name = record.names := by
  rw [arms, names, List.map_map]
  rfl

theorem mem_names_iff : segment ∈ record.names ↔ ∃ arm ∈ record.arms, arm.name = segment := by
  rw [← map_name_arms, List.mem_map]

/-- The names of the cases differ, up to the case of letters. -/
def NamesDiffer (record : RecordSchema) : Prop :=
  record.arms.Pairwise (fun first second => sameLetters first.name second.name = false)

/-- A type in a schema lists the names of the record, and finds under a name what the case for exactly
this name stands for. -/
structure Describes (record : RecordSchema) (schema : Schema) (owner : schema.Ty)
    (property : PropertyArm → Property schema.Item owner)
    : Prop where
  lists : schema.propertyNames owner = record.names
  finds : ∀ name, schema.property? owner name = (record.arm? name).map property

theorem arm?_eq_some (found : record.arm? segment = some arm)
    : arm ∈ record.arms ∧ arm.name = segment :=
  ⟨List.mem_of_find?_eq_some found, by simpa using List.find?_some found⟩

theorem arm?_eq_none (unlisted : segment ∉ record.names) : record.arm? segment = none := by
  rw [arm?, List.find?_eq_none]
  intro arm member same
  exact unlisted (mem_names_iff.mpr ⟨arm, member, beq_iff_eq.mp same⟩)

/-- At most one case goes by a segment in whatever case of letters. -/
theorem NamesDiffer.unique (differ : record.NamesDiffer) (member : arm ∈ record.arms)
    (another : other ∈ record.arms) (same : sameLetters arm.name segment = true)
    (alike : sameLetters other.name segment = true)
    : other = arm := by
  have symmetric : Std.Symm fun first second : PropertyArm =>
      sameLetters first.name second.name = false :=
    ⟨fun first second apart => by rw [sameLetters_symm, apart]⟩
  by_contra distinct
  have apart : sameLetters other.name arm.name = false :=
    List.Pairwise.forall differ another member distinct
  rw [sameLetters_of_common alike same] at apart
  cases apart

theorem NamesDiffer.arm?_name (differ : record.NamesDiffer) (member : arm ∈ record.arms)
    : record.arm? arm.name = some arm := by
  cases found : record.arm? arm.name with
  | none =>
      have absent := List.find?_eq_none.mp found arm member
      simp at absent
  | some other =>
      obtain ⟨another, named⟩ := arm?_eq_some found
      rw [differ.unique member another (sameLetters_refl _) (named ▸ sameLetters_refl _)]

variable {schema : Schema} {owner : schema.Ty} {property : PropertyArm → Property schema.Item owner}

/-- The properties of a described type are those that it lists. -/
theorem Describes.wellNamed (describes : record.Describes schema owner property)
    (differ : record.NamesDiffer)
    : schema.WellNamed owner where
  apart := by
    rw [describes.lists, ← map_name_arms]
    exact List.pairwise_map.mpr differ
  lists name := by
    rw [describes.lists, describes.finds, Option.isSome_map]
    constructor
    · intro declared
      obtain ⟨arm, found⟩ := Option.isSome_iff_exists.mp declared
      exact mem_names_iff.mpr ⟨arm, arm?_eq_some found⟩
    · intro listed
      obtain ⟨arm, member, rfl⟩ := mem_names_iff.mp listed
      rw [differ.arm?_name member]
      rfl

/-- A name in whatever case of letters leads to the property of its case. -/
theorem Describes.lookup?_of_sameLetters (describes : record.Describes schema owner property)
    (differ : record.NamesDiffer) (member : arm ∈ record.arms)
    (same : sameLetters arm.name segment = true)
    : schema.lookup? owner segment = some (property arm) := by
  have declared : schema.property? owner arm.name = some (property arm) := by
    rw [describes.finds, differ.arm?_name member]
    rfl
  exact (describes.wellNamed differ).lookup?_eq_some.mpr ⟨arm.name, declared, same⟩

/-- Nothing is found under a segment that is no name in any case of letters. -/
theorem Describes.lookup?_eq_none (describes : record.Describes schema owner property)
    (apart : ∀ name ∈ record.names, sameLetters name segment = false)
    : schema.lookup? owner segment = none := by
  have absent : record.arm? segment = none :=
    arm?_eq_none fun listed => by simpa [sameLetters_refl] using apart segment listed
  have unlisted : record.names.find? (fun name => sameLetters name segment) = none := by
    simpa [List.find?_eq_none] using apart
  simp [Schema.lookup?, describes.finds, describes.lists, absent, unlisted]

end RecordSchema

namespace TypeDeclaration

/-- Derived schemas can be addressed. Their names differ up to the case of letters, are in order those
of the cases, and are each a whole path of one name. A segment that is a name in some case of letters
leads to the property of the one case by that name, and any other segment leads nowhere. -/
theorem recordSchema_addressable {declaration : TypeDeclaration} {record : RecordSchema}
    (derived : declaration.recordSchema = .ok record)
    : record.names.Pairwise (fun name other => sameLetters name other = false)
      ∧ record.arms.map PropertyArm.name = record.names
      ∧ (∀ name ∈ record.names, Path.IsName name ∧ Path.parse name = .ok ⟨[name], none⟩)
      ∧ ∀ (schema : Schema) (owner : schema.Ty)
          (property : PropertyArm → Property schema.Item owner),
          record.Describes schema owner property →
          (∀ arm ∈ record.arms, ∀ segment, sameLetters arm.name segment = true →
            schema.lookup? owner segment = some (property arm)
            ∧ ∀ other ∈ record.arms, sameLetters other.name segment = true → other = arm)
          ∧ ∀ segment, (∀ name ∈ record.names, sameLetters name segment = false) →
              schema.lookup? owner segment = none := by
  obtain ⟨fields, container, -, steps⟩ := exists_fieldsExposed derived
  have differ : record.NamesDiffer := List.pairwise_map.mpr steps.names_differ.2
  refine ⟨List.pairwise_map.mpr steps.names_differ.2, record.map_name_arms, ?_, ?_⟩
  · intro name listed
    obtain ⟨entry, member, rfl⟩ := List.mem_map.mp listed
    have isName : Path.IsName entry.queryName := steps.isName entry member
    exact ⟨isName, isName.parse_name⟩
  · intro schema owner property describes
    refine ⟨fun arm member segment same => ⟨?_, ?_⟩, fun segment apart => ?_⟩
    · exact describes.lookup?_of_sameLetters differ member same
    · exact fun other another alike => differ.unique member another same alike
    · exact describes.lookup?_eq_none apart

/-- An order of a shop as declared, with a note that is kept from queries. -/
def order : TypeDeclaration where
  name := "Order"
  attributes := [⟨"query", some [.text "rename_all" "camelCase"]⟩]
  shape := .record [
    ⟨"number", "i64", [⟨"query", some [.word "Scalar"]⟩]⟩,
    ⟨"buyer", "String", [⟨"query", some [.word "Scalar", .text "rename" "customer"]⟩]⟩,
    ⟨"gift", "Option<Line>", [⟨"query", some [.word "Nested"]⟩]⟩,
    ⟨"note", "String", [⟨"query", some [.word "Scalar", .word "skip"]⟩]⟩,
    ⟨"lines", "Vec<Line>", [⟨"query", some [.word "List"]⟩]⟩,
    ⟨"follow_ups", "Vec<Order>", [⟨"query", some [.word "List"]⟩]⟩]

/-- The property that a case stands for, by the field that it reads. -/
def orderProperty (arm : PropertyArm) : Property Shop.Item .order :=
  match arm.field with
  | "buyer" => .scalar .text false fun order => .text order.customer
  | "gift" => .optionalObject .line fun order => order.gift
  | "lines" => .collection .line fun order => order.lines
  | "follow_ups" => .collection .order fun order => order.followUps
  | _ => .scalar .integer false fun order => .number (.signed order.number)

/-- The schema that is derived for orders. -/
def orderSchema : RecordSchema where
  typeName := "Order"
  fields := [
    ⟨"number", "NUMBER", .scalar, "number"⟩,
    ⟨"customer", "CUSTOMER", .scalar, "buyer"⟩,
    ⟨"gift", "GIFT", .optionalObject, "gift"⟩,
    ⟨"lines", "LINES", .collection, "lines"⟩,
    ⟨"followUps", "FOLLOW_UPS", .collection, "follow_ups"⟩]

/-- Orders of a shop have the properties of the schema, be the name listed or not. -/
theorem describes_orderSchema : orderSchema.Describes Shop.schema .order orderProperty where
  lists := rfl
  finds name := by
    by_cases listed : name ∈ orderSchema.names
    · simp only [orderSchema, RecordSchema.names, List.map_cons, List.map_nil, List.mem_cons,
        List.not_mem_nil, or_false] at listed
      rcases listed with rfl | rfl | rfl | rfl | rfl <;> rfl
    · have absent : Shop.schema.property? .order name = none := by
        simpa using mt Shop.mem_propertyNames listed
      rw [absent, RecordSchema.arm?_eq_none listed]
      rfl

/-- The schema of a shop is the one that is derived for its orders, so the orders that came of an order
are found under their name in any case of letters, but not under the name of the field. -/
theorem recordSchema_addressable_order
    : order.recordSchema = .ok orderSchema
        ∧ orderSchema.Describes Shop.schema .order orderProperty
        ∧ orderSchema.names = ["number", "customer", "gift", "lines", "followUps"]
        ∧ Path.parse "followUps" = .ok ⟨["followUps"], none⟩
        ∧ Shop.schema.lookup? .order "FOLLOWups"
          = some (.collection .order fun order => order.followUps)
        ∧ Shop.schema.lookup? .order "follow_ups" = none := by
  have derived : order.recordSchema = .ok orderSchema := by decide +kernel
  obtain ⟨-, -, addresses, leads⟩ := recordSchema_addressable derived
  obtain ⟨found, missing⟩ := leads _ _ _ describes_orderSchema
  refine ⟨derived, describes_orderSchema, rfl, ?_, ?_, ?_⟩
  · exact (addresses "followUps" (by decide)).2
  · exact (found ⟨"followUps", .collection, "follow_ups"⟩ (by decide) _ (by decide +kernel)).1
  · exact missing _ (by decide +kernel)

end TypeDeclaration

end TypedQuery.Declaration
