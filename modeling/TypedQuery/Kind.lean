import TypedQuery.Text.Letters

/-! The kinds of value that a property can have, and the families of kinds that take the same
comparisons. -/

namespace TypedQuery

/-- An enumeration: its name in messages, and its variants with their numbers in the order of
their declaration. -/
structure Enumeration where
  name : String
  variants : List (String × UInt32)
deriving DecidableEq, Repr

namespace Enumeration

/-- The number of the first variant with this name, up to the case of letters. -/
def numberOf? (enumeration : Enumeration) (name : String) : Option UInt32 :=
  (enumeration.variants.find? (fun variant => Text.sameLetters variant.1 name)).map Prod.snd

def hasNumber (enumeration : Enumeration) (number : UInt32) : Bool :=
  enumeration.variants.any (fun variant => variant.2 == number)

end Enumeration

inductive Kind where
  | text
  | integer
  | unsigned
  | float
  | flag
  | instant
  | date
  | uuid
  | variant (enumeration : Enumeration)
deriving DecidableEq, Repr

inductive Family where
  /-- Texts: equality, membership, substrings and patterns. -/
  | text
  /-- Numbers and points in time: equality, membership, order and ranges. -/
  | ordered
  /-- Flags, variants and identifiers: equality and membership. -/
  | equatable
deriving DecidableEq, Repr

namespace Kind

def family : Kind → Family
  | .text => .text
  | .integer | .unsigned | .float | .instant | .date => .ordered
  | .flag | .uuid | .variant _ => .equatable

/-- The name of a kind in messages; an enumeration goes by its own name. -/
def name : Kind → String
  | .text => "Text"
  | .integer => "Integer"
  | .unsigned => "Unsigned"
  | .float => "Float"
  | .flag => "Bool"
  | .instant => "Timestamp"
  | .date => "Date"
  | .uuid => "Uuid"
  | .variant enumeration => enumeration.name

end Kind

def Family.name : Family → String
  | .text => "text"
  | .ordered => "ordered"
  | .equatable => "equatable"

end TypedQuery
