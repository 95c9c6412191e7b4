import TypedQuery.Accessor
import TypedQuery.Filter
import TypedQuery.Number.Shortest
import TypedQuery.Source

/-! Descriptions of values, conditions and queries for people who look for faults: the name of a
thing, then its parts in parentheses, or its named parts in braces. -/

namespace TypedQuery

namespace Description

def list (parts : List String) : String :=
  "[" ++ String.intercalate ", " parts ++ "]"

def single (name part : String) : String :=
  name ++ "(" ++ part ++ ")"

def record (name : String) (parts : List (String × String)) : String :=
  name ++ " \x7b " ++ String.intercalate ", " (parts.map (fun part => part.1 ++ ": " ++ part.2))
    ++ " \x7d"

def optional : Option String → String
  | none => "None"
  | some part => single "Some" part

def flag (value : Bool) : String :=
  if value then "true" else "false"

end Description

open Description

/-- The description of a number names its representation. -/
def Number.describe : Number → String
  | .signed value => single "I64" (toString value.toInt)
  | .unsigned value => single "U64" (toString value.toNat)
  | .float value => single "F64" value.toText

def Value.describe : Value → String
  | .text content => single "String" (Text.quoted content)
  | .number amount => single "Number" amount.describe
  | .instant moment => single "Timestamp" (single "Timestamp" (toString moment.milliseconds))
  | .date day => single "Date" day.toText
  | .variant discriminant => single "Enum" (toString discriminant.toNat)
  | .flag state => single "Bool" (Description.flag state)
  | .uuid identifier => single "Uuid" identifier.toText
  | .null => "Null"

/-- The description of an enumeration lists its variants. -/
def Enumeration.describe (enumeration : Enumeration) : String :=
  let variants := enumeration.variants.map (fun variant =>
    "(" ++ Text.quoted variant.1 ++ ", " ++ toString variant.2.toNat ++ ")")
  record "EnumType" [("name", Text.quoted enumeration.name), ("variants", list variants)]

def Kind.describe : Kind → String
  | .variant enumeration => single "Enum" enumeration.describe
  | kind => kind.name

def CompareOp.describe : CompareOp → String
  | .eq => "Eq"
  | .ne => "Ne"
  | .gt => "Gt"
  | .gte => "Gte"
  | .lt => "Lt"
  | .lte => "Lte"

def TextOp.describe : TextOp → String
  | .contains => "Contains"
  | .startsWith => "StartsWith"
  | .endsWith => "EndsWith"

def Filter.describe : Filter → String
  | .constant value => record "Constant" [("value", flag value)]
  | .compare path op operand =>
      record "Compare" [("path", Text.quoted path), ("op", op.describe),
        ("value", operand.describe)]
  | .text path op needle =>
      record "Text" [("path", Text.quoted path), ("op", op.describe),
        ("value", Text.quoted needle)]
  | .like path pattern =>
      record "Like" [("path", Text.quoted path), ("pattern", Text.quoted pattern)]
  | .isIn path operands =>
      record "In" [("path", Text.quoted path), ("values", list (operands.map Value.describe))]
  | .any path filter =>
      record "Any" [("path", Text.quoted path), ("predicate", filter.describe)]
  | .not filter => record "Not" [("predicate", filter.describe)]
  | .and left right => record "And" [("left", left.describe), ("right", right.describe)]
  | .or left right => record "Or" [("left", left.describe), ("right", right.describe)]
  | .custom name => record "Custom" [("name", Text.quoted name)]

/-- The description of a predicate is that of its filter. -/
def Predicate.describe {α : Type} (predicate : Predicate α) : String :=
  single "Predicate" predicate.filter.describe

def Accessor.describe {schema : Schema} {owner : schema.Ty} (accessor : Accessor schema owner)
    : String :=
  record "PropertyAccessor" [("path", Text.quoted accessor.path),
    ("type", optional (accessor.kind?.map Kind.describe)),
    ("collection", flag accessor.isCollection)]

def OrderKey.describe (key : OrderKey) : String :=
  record "OrderKey" [("path", Text.quoted key.path), ("descending", flag key.descending)]

def SortKey.describe {α : Type} (key : SortKey α) : String :=
  single "SortKey" (key.label ++ " " ++ key.direction.name)

def OrderChain.describe {α : Type} (chain : OrderChain α) : String :=
  list (chain.keys.map SortKey.describe)

/-- The description of a step shows a compiled order as keys of a client. -/
def QueryStep.describe {α : Type} : QueryStep α → String
  | .filter predicate => single "Filter" predicate.filter.describe
  | .order chain => single "Order" (list (chain.description.map OrderKey.describe))
  | .skip count => single "Skip" (toString count.toNat)
  | .take count => single "Take" (toString count.toNat)

def LazyQuery.describe {α : Type} (query : LazyQuery α) : String :=
  list (query.steps.map QueryStep.describe)

end TypedQuery
