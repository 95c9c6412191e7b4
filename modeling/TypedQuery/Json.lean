import TypedQuery.Number.Binary64

/-! JSON values, and the common readers for their parts. A reader answers nothing where the value
is not of the form that it reads. -/

namespace TypedQuery

/-- A JSON value. Integers of up to 64 bits are kept apart from all other numbers. -/
inductive Json where
  | null
  | bool (value : Bool)
  | integer (value : Int)
  | float (value : Binary64)
  | string (text : String)
  | array (items : List Json)
  | object (fields : List (String × Json))
deriving BEq, Repr

namespace Json

def text? : Json → Option String
  | .string text => some text
  | _ => none

def flag? : Json → Option Bool
  | .bool value => some value
  | _ => none

/-- A number of items: a nonnegative integer of up to 64 bits. -/
def count? : Json → Option UInt64
  | .integer value =>
      if 0 ≤ value ∧ value.toNat < UInt64.size then some (UInt64.ofNat value.toNat) else none
  | _ => none

def items? : Json → Option (List Json)
  | .array items => some items
  | _ => none

def listOf? {α : Type} (read? : Json → Option α) (json : Json) : Option (List α) :=
  json.items?.bind (fun items => items.mapM read?)

def nullable? {α : Type} (read? : Json → Option α) : Json → Option (Option α)
  | .null => some none
  | json => (read? json).map some

/-- One of several names, given as a text or as an object with that name alone and null in it. -/
def name? : Json → Option String
  | .string name => some name
  | .object [(name, .null)] => some name
  | _ => none

/-- A value by its name, from a list of all values. -/
def named? {α : Type} (all : List α) (nameOf : α → String) (json : Json) : Option α :=
  json.name?.bind (fun name => all.find? (fun value => nameOf value == name))

def field? (name : String) (fields : List (String × Json)) : Option Json :=
  (fields.find? (fun field => field.1 == name)).map Prod.snd

/-- The fields of a record in a fixed order, those left out missing. A record comes as an object,
whose other fields are ignored, or as an array of its first fields. -/
def record? (names : List String) : Json → Option (List (Option Json))
  | .object fields => some (names.map (fun name => field? name fields))
  | .array items =>
      if items.length ≤ names.length then
        some (items.map some ++ List.replicate (names.length - items.length) none)
      else none
  | _ => none

/-- A field that may be left out. -/
def optionalField? {α : Type} (read? : Json → Option α) (default : α) : Option Json → Option α
  | none => some default
  | some json => read? json

end Json

end TypedQuery
