import TypedQuery.Proofs.Accessor.Links

/-! Types of what is read. If every property reads values of the kind that it declares, and null only
where it declares that too, then so does every path, over any number of links.
-/

namespace TypedQuery

-----------------------------------------------------------------------------------------
-- Values of a kind
-----------------------------------------------------------------------------------------

/-- The values of each kind. Numbers have a representation for each of their kinds. -/
inductive Kind.Describes : Kind → Value → Prop
  | text (text : String) : Describes .text (.text text)
  | integer (number : Int64) : Describes .integer (.number (.signed number))
  | unsigned (number : UInt64) : Describes .unsigned (.number (.unsigned number))
  | float (number : Binary64) : Describes .float (.number (.float number))
  | flag (flag : Bool) : Describes .flag (.flag flag)
  | instant (instant : Instant) : Describes .instant (.instant instant)
  | date (date : Date) : Describes .date (.date date)
  | uuid (uuid : Uuid) : Describes .uuid (.uuid uuid)
  | variant (enumeration : Enumeration) (number : UInt32)
    : Describes (.variant enumeration) (.variant number)

/-- The values of a kind, and null where it is allowed. -/
def Kind.Admits (kind : Kind) (nullable : Bool) (value : Value) : Prop :=
  (value = .null ∧ nullable = true) ∨ kind.Describes value

/-- Null is of no kind. -/
theorem Kind.Describes.ne_null {kind : Kind} {value : Value} (describes : kind.Describes value)
    : value ≠ .null := by
  cases describes <;> simp

/-- Values of one kind, null among them, can be sorted. -/
theorem Value.sortCompare?_of_kind {kind : Kind} {left right : Value}
    (first : left = .null ∨ kind.Describes left) (second : right = .null ∨ kind.Describes right)
    : ∃ ordering, left.sortCompare? right = some ordering := by
  rcases first with rfl | first
  · cases right <;> exact ⟨_, rfl⟩
  · rcases second with rfl | second
    · cases left <;> exact ⟨_, rfl⟩
    · cases first <;> cases second <;> exact ⟨_, rfl⟩

-----------------------------------------------------------------------------------------
-- Honest schemas
-----------------------------------------------------------------------------------------

/-- Every value of a property is of the declared kind, or null where that is declared. -/
def Schema.Honest (schema : Schema) : Prop :=
  ∀ owner name kind nullable read,
    schema.property? owner name = some (.scalar kind nullable read) →
    ∀ item, kind.Admits nullable (read item)

/-- How the fields of a type are read: the kind of their values, whether there may be none, and the
value of each field. -/
structure FieldReader (α : Type) where
  kind : Kind
  nullable : Bool
  value : α → Value
  admits : ∀ field, kind.Admits nullable (value field)

namespace FieldReader

def text : FieldReader String := ⟨.text, false, .text, fun field => .inr (.text field)⟩

def signed : FieldReader Int64 :=
  ⟨.integer, false, fun field => .number (.signed field), fun field => .inr (.integer field)⟩

def unsigned : FieldReader UInt64 :=
  ⟨.unsigned, false, fun field => .number (.unsigned field), fun field => .inr (.unsigned field)⟩

def float : FieldReader Binary64 :=
  ⟨.float, false, fun field => .number (.float field), fun field => .inr (.float field)⟩

def flag : FieldReader Bool := ⟨.flag, false, .flag, fun field => .inr (.flag field)⟩

def instant : FieldReader Instant := ⟨.instant, false, .instant, fun field => .inr (.instant field)⟩

def date : FieldReader Date := ⟨.date, false, .date, fun field => .inr (.date field)⟩

def uuid : FieldReader Uuid := ⟨.uuid, false, .uuid, fun field => .inr (.uuid field)⟩

/-- A field that holds a variant is read as its number. -/
def variant {α : Type} (enumeration : Enumeration) (number : α → UInt32) : FieldReader α :=
  ⟨.variant enumeration, false, fun field => .variant (number field),
    fun field => .inr (.variant enumeration (number field))⟩

/-- A field that may be absent is null then. -/
def optional {α : Type} (reader : FieldReader α) : FieldReader (Option α) where
  kind := reader.kind
  nullable := true
  value field := (field.map reader.value).getD .null
  admits field := by
    cases field with
    | none => exact .inl ⟨rfl, rfl⟩
    | some held => exact (reader.admits held).imp (fun null => ⟨null.1, rfl⟩) id

end FieldReader

/-- A property that reads a field of the item. -/
def Property.field {Ty : Type} {Item : Ty → Type} {owner : Ty} {α : Type} (reader : FieldReader α)
    (get : Item owner → α)
    : Property Item owner :=
  .scalar reader.kind reader.nullable fun item => reader.value (get item)

/-- A schema whose values are all read from fields is honest. -/
theorem Schema.honest_of_fields {schema : Schema}
    (fields
      : ∀ owner name property, schema.property? owner name = some property →
          property.isScalar = true →
          ∃ (α : Type) (reader : FieldReader α) (get : schema.Item owner → α),
            property = .field reader get)
    : schema.Honest := by
  intro owner name kind nullable read found item
  obtain ⟨α, reader, get, same⟩ := fields owner name _ found rfl
  cases same
  exact reader.admits (get item)

/-- A shop reads its values from fields. -/
theorem Shop.honest : Shop.schema.Honest := by
  apply Schema.honest_of_fields
  intro (owner : Shop.Ty) name property found scalar
  dsimp only [Shop.schema] at found
  split at found <;> cases found
  case h_1 => exact ⟨String, .text, Shop.Line.article, rfl⟩
  case h_2 => exact ⟨Option Int64, .optional .signed, Shop.Line.quantity, rfl⟩
  case h_3 => exact ⟨Int64, .signed, Shop.Order.number, rfl⟩
  case h_4 => exact ⟨String, .text, Shop.Order.customer, rfl⟩
  all_goals cases scalar

-----------------------------------------------------------------------------------------
-- A schema with floating-point values, for closed instances
-----------------------------------------------------------------------------------------

namespace Gauge

/-- What a gauge shows: its level, if it answers, and how far off that may be. -/
structure Reading where
  level : Option Binary64
  error : Binary64

def schema : Schema where
  Ty := Unit
  Item _ := Reading
  typeName _ := "Reading"
  propertyNames _ := ["level", "error"]
  property?
    | (), "level" => some (.field (.optional .float) Reading.level)
    | (), "error" => some (.field .float Reading.error)
    | _, _ => none

theorem honest : schema.Honest := by
  apply Schema.honest_of_fields
  intro (owner : Unit) name property found scalar
  dsimp only [schema] at found
  split at found <;> cases found
  case h_1 => exact ⟨Option Binary64, .optional .float, Reading.level, rfl⟩
  case h_2 => exact ⟨Binary64, .float, Reading.error, rfl⟩

end Gauge

-----------------------------------------------------------------------------------------
-- Reads
-----------------------------------------------------------------------------------------

/-- What an honest schema reads at the end of a way is of the kind, and null only if it is declared
nullable there or a link on the way is optional. -/
theorem Schema.Honest.admits_atEnd {schema : Schema} (honest : schema.Honest) {owner : schema.Ty}
    {way : Way schema owner} {name : String} {kind : Kind} {nullable : Bool}
    {read : schema.Item way.last → Value}
    (found : schema.lookup? way.last name = some (.scalar kind nullable read))
    (item : schema.Item owner)
    : kind.Admits (nullable || way.optional) (((way.object? item).map read).getD .null) := by
  cases reached : way.object? item with
  | none =>
      have optional : way.optional = true := by
        by_contra required
        have held := way.held (Bool.eq_false_iff.mpr required) item
        simp [reached] at held
      exact .inl ⟨rfl, by simp [optional]⟩
  | some object =>
      obtain ⟨listed, declared, -⟩ := Schema.property?_of_lookup? found
      exact (honest way.last listed kind nullable read declared object).imp
        (fun null => ⟨null.1, by simp [null.2]⟩) id

/-- A path to a value reads values of its kind, or null where it is nullable. So what it reads from
any two items can be sorted. -/
theorem Accessor.read?_admitted (schema : Schema) (honest : schema.Honest) (owner : schema.Ty)
    (path : String) (accessor : Accessor schema owner) (kind : Kind)
    (resolved : Accessor.resolve schema owner path = .ok accessor)
    (reads : accessor.kind? = some kind)
    : (∀ item, ∃ value, accessor.read? item = some value
          ∧ (value = .null ∨ kind.Describes value)
          ∧ (value = .null → accessor.isNullable = true))
      ∧ ∀ first second, ∃ left right ordering,
          accessor.read? first = some left
          ∧ accessor.read? second = some right
          ∧ left.sortCompare? right = some ordering := by
  obtain ⟨target, leads, rfl⟩ := Accessor.resolve_eq_ok.mp resolved
  cases target with
  | elements => cases reads
  | value valueKind nullable read =>
      obtain rfl : valueKind = kind := Option.some.inj reads
      have admits (item : schema.Item owner) : valueKind.Admits nullable (read item) := by
        obtain ⟨links, name, way, _, _, _, -, -, found, same⟩ := resolve_atEnd leads rfl
        cases same
        exact honest.admits_atEnd found item
      have ofKind (item : schema.Item owner)
          : read item = .null ∨ valueKind.Describes (read item) :=
        (admits item).imp And.left id
      constructor
      · intro item
        refine ⟨read item, rfl, ofKind item, fun null => ?_⟩
        rcases admits item with ⟨-, allowed⟩ | describes
        · simp [Accessor.isNullable, allowed]
        · exact absurd null describes.ne_null
      · intro first second
        obtain ⟨ordering, sorted⟩ := Value.sortCompare?_of_kind (ofKind first) (ofKind second)
        exact ⟨read first, read second, ordering, rfl, rfl, sorted⟩

/-- The quantity of the gift of an order is an integer or null, and any two orders can be sorted by
it, although the gift may be missing. -/
theorem Accessor.read?_admitted_giftQuantity
    : Shop.schema.Honest
      ∧ ∃ accessor,
          Accessor.resolve Shop.schema .order "gift.quantity" = .ok accessor
          ∧ accessor.kind? = some .integer
          ∧ (∀ item, ∃ value, accessor.read? item = some value
              ∧ (value = .null ∨ Kind.integer.Describes value)
              ∧ (value = .null → accessor.isNullable = true))
          ∧ ∀ first second, ∃ left right ordering,
              accessor.read? first = some left
              ∧ accessor.read? second = some right
              ∧ left.sortCompare? right = some ordering := by
  have parsed : Path.parse "gift.quantity" = .ok ⟨["gift", "quantity"], none⟩ := rfl
  have leads : TypedQuery.resolve Shop.schema .order "gift.quantity" = .ok _ :=
    Follows.resolve_eq_ok parsed (.optionalObject rfl (.value rfl rfl))
  have resolved := Accessor.resolve_eq_ok.mpr ⟨_, leads, rfl⟩
  exact ⟨Shop.honest, _, resolved, rfl,
    Accessor.read?_admitted Shop.schema Shop.honest .order "gift.quantity" _ .integer resolved rfl⟩

end TypedQuery
