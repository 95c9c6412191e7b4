import TypedQuery.Declaration.Basic
import TypedQuery.Declaration.IntegerLiteral

/-! The variants of an enumeration and their numbers, derived from its declaration. A variant
without a number of its own follows the one before it. -/

namespace TypedQuery.Declaration

/-- A variant with its name in queries and its number. -/
structure NumberedVariant where
  variant : String
  queryName : String
  number : UInt32
deriving DecidableEq, Repr

/-- The number of a variant. `next` is the number after that of the variant before, if there is
one in the range of numbers. -/
def variantNumber (next : Option UInt32) (variant : Variant) : Except DeclarationFault UInt32 :=
  match variant.number with
  | none =>
      match next with
      | some number => .ok number
      | none => .error .numberOverflow
  | some source =>
      match integerLiteral? source with
      | none => .error .notIntegerLiteral
      | some number =>
          if number < UInt32.size then .ok (UInt32.ofNat number) else .error .numberTooLarge

/-- The number after a number, if it is in the range of numbers. -/
def numberAfter? (number : UInt32) : Option UInt32 :=
  if number.toNat + 1 < UInt32.size then some (number + 1) else none

def numberVariants (container : Exposure) (next : Option UInt32)
    : List Variant → Except DeclarationFault (List NumberedVariant)
  | [] => return []
  | variant :: rest => do
      if variant.hasData then throw .variantWithData
      let number ← variantNumber next variant
      let exposure ← Exposure.ofAttributes variant.attributes
      let numbered := ⟨variant.name, queryName exposure container variant.name, number⟩
      return numbered :: (← numberVariants container (numberAfter? number) rest)

/-- The numbered variants of a declared enumeration. -/
def TypeDeclaration.numberedVariants (declaration : TypeDeclaration)
    : Except DeclarationFault (List NumberedVariant) := do
  if declaration.isGeneric then throw .genericEnumeration
  match declaration.shape with
  | .enumeration variants =>
      let container ← Exposure.ofAttributes declaration.attributes
      numberVariants container (some 0) variants
  | _ => throw .notEnumeration

end TypedQuery.Declaration
