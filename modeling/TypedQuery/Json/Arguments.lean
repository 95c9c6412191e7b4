import TypedQuery.Arguments
import TypedQuery.Json

/-! Arguments and options in JSON. Each record is written as an object; what is written reads back
as the same record. -/

namespace TypedQuery

namespace Comparison

def ofJson? : Json → Option Comparison :=
  Json.named? all name

def toJson (comparison : Comparison) : Json :=
  .string comparison.name

end Comparison

namespace Connector

def ofJson? : Json → Option Connector :=
  Json.named? [.and, .or] name

def toJson (connector : Connector) : Json :=
  .string connector.name

end Connector

namespace OrderKey

/-- A key: its path, and whether it is descending, which it is not if left out. -/
def ofJson? (json : Json) : Option OrderKey := do
  match ← json.record? ["path", "descending"] with
  | [some path, descending] =>
      return ⟨← path.text?, ← Json.optionalField? Json.flag? false descending⟩
  | _ => none

def toJson (key : OrderKey) : Json :=
  .object [("path", .string key.path), ("descending", .bool key.descending)]

end OrderKey

namespace Node

/-- The names of a node's fields, in order; the last holds the children. -/
def fieldNames : List String :=
  ["path", "comparison", "value", "negate", "connector", "groupedExpressions"]

/-- A token: a text or null. -/
def tokenOfJson? : Json → Option Token :=
  Json.nullable? Json.text?

/-- A node without its children. Every field may be left out. -/
def bareOfJson? (json : Json) : Option Node := do
  match ← json.record? fieldNames with
  | [path, comparison, tokens, negate, connector, _] =>
      return {
        path := ← Json.optionalField? Json.text? "" path
        comparison := ← Json.optionalField? Comparison.ofJson? .equal comparison
        tokens := ← Json.optionalField? (Json.listOf? tokenOfJson?) [] tokens
        negate := ← Json.optionalField? Json.flag? false negate
        connector := ← Json.optionalField? Connector.ofJson? .and connector
      }
  | _ => none

mutual

def ofJson? : Json → Option Node
  | .object fields => do
      return { ← bareOfJson? (.object fields) with children := ← childrenOfFields? fields }
  | .array items => do
      return { ← bareOfJson? (.array items) with children := ← childrenOfItems? 5 items }
  | _ => none

/-- The children in the first field of their name; left out and null mean no group. -/
def childrenOfFields? : List (String × Json) → Option (Option (List Node))
  | [] => some none
  | (name, json) :: rest =>
      if name = "groupedExpressions" then childrenOfJson? json else childrenOfFields? rest

/-- The children in the item at a place; left out and null mean no group. -/
def childrenOfItems? : (place : Nat) → List Json → Option (Option (List Node))
  | _, [] => some none
  | 0, json :: _ => childrenOfJson? json
  | place + 1, _ :: rest => childrenOfItems? place rest

def childrenOfJson? : Json → Option (Option (List Node))
  | .null => some none
  | .array items => (listOfJson? items).map some
  | _ => none

def listOfJson? : List Json → Option (List Node)
  | [] => some []
  | json :: rest => do
      let node ← ofJson? json
      return node :: (← listOfJson? rest)

end

def bareFields (path : String) (comparison : Comparison) (tokens : List Token) (negate : Bool)
    (connector : Connector) : List (String × Json) :=
  [("path", .string path), ("comparison", comparison.toJson),
    ("value", .array (tokens.map (fun token => (token.map Json.string).getD .null))),
    ("negate", .bool negate), ("connector", connector.toJson)]

mutual

/-- A node as an object. The children are left out if it has none. -/
def toJson : Node → Json
  | ⟨path, comparison, tokens, negate, connector, none⟩ =>
      .object (bareFields path comparison tokens negate connector)
  | ⟨path, comparison, tokens, negate, connector, some children⟩ =>
      .object (bareFields path comparison tokens negate connector
        ++ [("groupedExpressions", .array (listToJson children))])

def listToJson : List Node → List Json
  | [] => []
  | node :: rest => node.toJson :: listToJson rest

end

end Node

/-- A field that is left out if there is no value for it. -/
def Json.fieldIfSome {α : Type} (name : String) (write : α → Json) : Option α → List (String × Json)
  | none => []
  | some value => [(name, write value)]

def Json.ofCount (count : UInt64) : Json :=
  .integer count.toNat

namespace Arguments

/-- Arguments. Every field may be left out; null is as good as left out, but not for the order. -/
def ofJson? (json : Json) : Option Arguments := do
  match ← json.record? ["ids", "where", "orderBy", "skip", "take"] with
  | [ids, nodes, orderBy, skip, take] =>
      return {
        ids := ← Json.optionalField? (Json.nullable? (Json.listOf? Json.text?)) none ids
        nodes := ← Json.optionalField? Node.childrenOfJson? none nodes
        orderBy := ← Json.optionalField? (Json.listOf? OrderKey.ofJson?) [] orderBy
        skip := ← Json.optionalField? (Json.nullable? Json.count?) none skip
        take := ← Json.optionalField? (Json.nullable? Json.count?) none take
      }
  | _ => none

/-- Arguments as an object that leaves out what is not given. -/
def toJson (arguments : Arguments) : Json :=
  .object (
    Json.fieldIfSome "ids" (fun ids => .array (ids.map Json.string)) arguments.ids
    ++ Json.fieldIfSome "where" (fun nodes => .array (Node.listToJson nodes)) arguments.nodes
    ++ (if arguments.orderBy.isEmpty then []
        else [("orderBy", .array (arguments.orderBy.map OrderKey.toJson))])
    ++ Json.fieldIfSome "skip" Json.ofCount arguments.skip
    ++ Json.fieldIfSome "take" Json.ofCount arguments.take)

end Arguments

namespace ArgumentOptions

/-- Options. Every field may be left out. -/
def ofJson? (json : Json) : Option ArgumentOptions := do
  match ← json.record? ["keyNames", "applyOrder", "omit"] with
  | [keyNames, applyOrder, omitted] =>
      return {
        keyNames := ← Json.optionalField? (Json.listOf? Json.text?) [] keyNames
        applyOrder := ← Json.optionalField? Json.flag? true applyOrder
        omitted := ← Json.optionalField? Json.flag? false omitted
      }
  | _ => none

def toJson (options : ArgumentOptions) : Json :=
  .object [("keyNames", .array (options.keyNames.map Json.string)),
    ("applyOrder", .bool options.applyOrder), ("omit", .bool options.omitted)]

end ArgumentOptions

end TypedQuery
