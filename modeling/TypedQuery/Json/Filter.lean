import TypedQuery.Filter
import TypedQuery.Json

/-! Filters and values in JSON, for stores that run queries of their own. -/

namespace TypedQuery

/-- A value without a mark of its kind: numbers and instants are numbers, dates and identifiers
texts. A number that is not finite is null. -/
def Value.toJson : Value → Json
  | .text content => .string content
  | .number (.signed amount) => .integer amount.toInt
  | .number (.unsigned amount) => .integer amount.toNat
  | .number (.float amount) =>
      if amount.isNaN || amount.isInfinite then .null else .float amount
  | .instant moment => .integer moment.milliseconds
  | .date day => .string day.toText
  | .variant discriminant => .integer discriminant.toNat
  | .flag state => .bool state
  | .uuid identifier => .string identifier.toText
  | .null => .null

/-- A filter as an object whose field `kind` names the condition. -/
def Filter.toJson : Filter → Json
  | .constant value => .object [("kind", .string "constant"), ("value", .bool value)]
  | .compare path op operand =>
      .object [("kind", .string "compare"), ("path", .string path), ("op", .string op.name),
        ("value", operand.toJson)]
  | .text path op needle =>
      .object [("kind", .string "text"), ("path", .string path), ("op", .string op.name),
        ("value", .string needle)]
  | .like path pattern =>
      .object [("kind", .string "like"), ("path", .string path), ("pattern", .string pattern)]
  | .isIn path operands =>
      .object [("kind", .string "in"), ("path", .string path),
        ("values", .array (operands.map Value.toJson))]
  | .any path filter =>
      .object [("kind", .string "any"), ("path", .string path), ("predicate", filter.toJson)]
  | .not filter => .object [("kind", .string "not"), ("predicate", filter.toJson)]
  | .and left right =>
      .object [("kind", .string "and"), ("left", left.toJson), ("right", right.toJson)]
  | .or left right =>
      .object [("kind", .string "or"), ("left", left.toJson), ("right", right.toJson)]
  | .custom name => .object [("kind", .string "custom"), ("name", .string name)]

end TypedQuery
