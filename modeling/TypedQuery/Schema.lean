import TypedQuery.Kind
import TypedQuery.Value

/-! Schemas: which properties the items of a type have, by name, and how each is read. The types
of a schema may refer to each other in any way, so a path can go on through an item's items for as
long as it likes. -/

namespace TypedQuery

/-- How a property of an owner type is read. -/
inductive Property {Ty : Type} (Item : Ty → Type) (owner : Ty) where
  /-- A value of a kind; it may be null only if the property is nullable. -/
  | scalar (kind : Kind) (nullable : Bool) (read : Item owner → Value)
  /-- An object with properties of its own. -/
  | object (target : Ty) (get : Item owner → Item target)
  /-- An object that may be missing. -/
  | optionalObject (target : Ty) (get : Item owner → Option (Item target))
  /-- A collection of objects. -/
  | collection (element : Ty) (get : Item owner → List (Item element))

/-- Types of items with their named properties. -/
structure Schema where
  Ty : Type
  Item : Ty → Type
  typeName : Ty → String
  propertyNames : Ty → List String
  property? : (owner : Ty) → String → Option (Property Item owner)

namespace Schema

/-- The property that a segment of a path names: the one with exactly this name, else the first of
the exposed names that is equal up to the case of letters. -/
def lookup? (schema : Schema) (owner : schema.Ty) (segment : String)
    : Option (Property schema.Item owner) :=
  match schema.property? owner segment with
  | some property => some property
  | none =>
      ((schema.propertyNames owner).find? (fun name => Text.sameLetters name segment)).bind
        (schema.property? owner)

/-- What a segment names is a property, maybe under the segment in another case. -/
theorem property?_of_lookup? {schema : Schema} {owner : schema.Ty} {segment : String}
    {property : Property schema.Item owner} (found : schema.lookup? owner segment = some property)
    : ∃ name, schema.property? owner name = some property
        ∧ Text.sameLetters name segment = true := by
  unfold lookup? at found
  split at found
  · next declared => exact ⟨segment, declared.trans found, Text.sameLetters_refl segment⟩
  · obtain ⟨name, listed, declared⟩ := Option.bind_eq_some_iff.mp found
    have same : Text.sameLetters name segment = true := by
      simpa using List.find?_some listed
    exact ⟨name, declared, same⟩

end Schema

namespace Property

variable {Ty : Type} {Item : Ty → Type} {owner : Ty}

def kind? : Property Item owner → Option Kind
  | .scalar kind _ _ => some kind
  | _ => none

def isScalar (property : Property Item owner) : Bool :=
  property.kind?.isSome

end Property

end TypedQuery
