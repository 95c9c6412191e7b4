import TypedQuery.Declaration.Basic
import TypedQuery.Declaration.OptionalType
import TypedQuery.Text.Letters

/-! The schema of a record, derived from its declaration. A field is exposed if its attribute says
how; exposed fields have distinct names up to the case of letters, and a constant for each. -/

namespace TypedQuery.Declaration

open Text

inductive FieldReader where
  | scalar
  | enumeration
  | optionalEnumeration
  | object
  | optionalObject
  | collection
deriving DecidableEq, Repr

structure ExposedField where
  queryName : String
  constant : String
  reader : FieldReader
  field : String
deriving DecidableEq, Repr

/-- The schema of a record: the name of its type, and its exposed fields in order. -/
structure RecordSchema where
  typeName : String
  fields : List ExposedField
deriving DecidableEq, Repr

/-- The case that finds a property: the name that it is for, and how the property is read. -/
structure PropertyArm where
  name : String
  reader : FieldReader
  field : String
deriving DecidableEq, Repr

def ExposedField.arm (exposed : ExposedField) : PropertyArm :=
  ⟨exposed.queryName, exposed.reader, exposed.field⟩

namespace RecordSchema

/-- The names that the schema lists. -/
def names (schema : RecordSchema) : List String :=
  schema.fields.map ExposedField.queryName

def arms (schema : RecordSchema) : List PropertyArm :=
  schema.fields.map ExposedField.arm

/-- The property with exactly this name: the first case that is for it decides. -/
def arm? (schema : RecordSchema) (name : String) : Option PropertyArm :=
  schema.arms.find? (fun arm => arm.name == name)

end RecordSchema

/-- The reader of a field, which for objects and variants depends on whether it is optional. -/
def FieldReader.ofKind (exposedAs : ExposedAs) (isOptional : Bool) : FieldReader :=
  match exposedAs, isOptional with
  | .scalar, _ => .scalar
  | .enumeration, false => .enumeration
  | .enumeration, true => .optionalEnumeration
  | .object, false => .object
  | .object, true => .optionalObject
  | .collection, _ => .collection

/-- The exposed field of a field, if it is exposed. `names` are those of the fields before it. -/
def exposeField? (container : Exposure) (names : List String) (field : Field)
    : Except DeclarationFault (Option ExposedField) := do
  let exposure ← Exposure.ofAttributes field.attributes
  if exposure.skip then return none
  match exposure.exposedAs with
  | none => return none
  | some exposedAs =>
      let name := queryName exposure container field.name
      if names.any (fun other => sameLetters other name) then throw (.duplicateName name)
      let constant := constantName name
      if !isIdentifier constant.toList then throw (.invalidConstant constant)
      let reader := FieldReader.ofKind exposedAs (isOptionalType field.type)
      return some ⟨name, constant, reader, field.name⟩

def exposeFields (container : Exposure) (names : List String)
    : List Field → Except DeclarationFault (List ExposedField)
  | [] => return []
  | field :: rest => do
      match ← exposeField? container names field with
      | none => exposeFields container names rest
      | some exposed =>
          return exposed :: (← exposeFields container (names ++ [exposed.queryName]) rest)

def TypeDeclaration.recordSchema (declaration : TypeDeclaration)
    : Except DeclarationFault RecordSchema := do
  if declaration.isGeneric then throw .genericRecord
  match declaration.shape with
  | .record fields =>
      let container ← Exposure.ofAttributes declaration.attributes
      let exposed ← exposeFields container [] fields
      return ⟨String.ofList (withoutRawMark declaration.name.toList), exposed⟩
  | .tuple | .unit => throw .unnamedFields
  | .union | .enumeration _ => throw .notRecord

end TypedQuery.Declaration
