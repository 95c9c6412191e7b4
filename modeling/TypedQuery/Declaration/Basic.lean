import TypedQuery.Declaration.Attribute

/-! Declarations of types, as far as queries depend on them. -/

namespace TypedQuery.Declaration

/-- A field of a record, with its type as written. -/
structure Field where
  name : String
  type : String
  attributes : List Attribute := []
deriving DecidableEq, Repr

/-- A variant of an enumeration, with the expression for its number as written. -/
structure Variant where
  name : String
  hasData : Bool := false
  number : Option String := none
  attributes : List Attribute := []
deriving DecidableEq, Repr

inductive Shape where
  | record (fields : List Field)
  | tuple
  | unit
  | union
  | enumeration (variants : List Variant)
deriving DecidableEq, Repr

structure TypeDeclaration where
  name : String
  isGeneric : Bool := false
  attributes : List Attribute := []
  shape : Shape
deriving DecidableEq, Repr

end TypedQuery.Declaration
