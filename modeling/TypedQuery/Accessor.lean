import TypedQuery.Error
import TypedQuery.Schema

/-! Paths resolved against a schema. A resolved path either reads one value out of an item, or
gathers the elements of a collection and goes on with a path of their own. -/

namespace TypedQuery

inductive Target (schema : Schema) : schema.Ty → Type where
  /-- One value. -/
  | value {owner : schema.Ty} (kind : Kind) (nullable : Bool)
      (read : schema.Item owner → Value) : Target schema owner
  /-- The elements of the collection at a path, and where the element path leads from each. -/
  | elements {owner : schema.Ty} (path : String) (element : schema.Ty)
      (gather : schema.Item owner → List (schema.Item element))
      (elementPath : String) (target : Target schema element) : Target schema owner

namespace Target

variable {schema : Schema} {owner linked : schema.Ty}

/-- The target seen from an item that holds the object it starts from. -/
def through (get : schema.Item owner → schema.Item linked)
    : Target schema linked → Target schema owner
  | .value kind nullable read => .value kind nullable (fun item => read (get item))
  | .elements path element gather elementPath target =>
      .elements path element (fun item => gather (get item)) elementPath target

/-- The target seen from an item that may hold the object it starts from. Without the object a
value is null and a collection is empty. -/
def throughOptional (get : schema.Item owner → Option (schema.Item linked))
    : Target schema linked → Target schema owner
  | .value kind _ read =>
      .value kind true (fun item =>
        match get item with
        | some object => read object
        | none => .null)
  | .elements path element gather elementPath target =>
      .elements path element
        (fun item =>
          match get item with
          | some object => gather object
          | none => [])
        elementPath target

end Target

/-- A text in a bracket is shorter than the text around it. -/
theorem Path.element_length_lt {raw element : String} {path : Path}
    (parsed : Path.parse raw = .ok path) (bracket : path.element = some element)
    : element.length < raw.length := by
  unfold Path.parse at parsed
  split at parsed
  · cases parsed
  · split at parsed
    · cases parsed
    · next outer inner split_eq =>
      dsimp only at parsed
      split at parsed
      · cases parsed
      · cases parsed
        obtain ⟨text, rfl, rfl⟩ := Option.map_eq_some_iff.mp bracket
        unfold Path.splitBracket at split_eq
        dsimp only at split_eq
        split at split_eq
        · split at split_eq <;> simp at split_eq
        · next head rest tail_eq =>
          split at split_eq
          · cases split_eq
          · split at split_eq
            · cases split_eq
            · simp only [Except.ok.injEq, Prod.mk.injEq, Option.some.injEq] at split_eq
              have shorter : (raw.toList.dropWhile (· != '[')).length ≤ raw.toList.length :=
                (List.dropWhile_sublist _).length_le
              rw [tail_eq] at shorter
              have lengths : raw.length = raw.toList.length := (String.length_toList).symm
              rw [← split_eq.2, String.length_ofList, lengths, List.length_dropLast]
              simp only [List.length_cons] at shorter
              omega

/-- Follows the names of a path from the items of a type. All names but the last must lead to
objects; the last leads to a value, or to a collection if the path goes on in a bracket.
`descend` resolves the text in the bracket against the type of the elements. -/
def followSegments (schema : Schema) (raw : String) (path : Path)
    (descend : (element : schema.Ty) → Except Fault (String × Target schema element))
    : (owner : schema.Ty) → List String → Except Fault (Target schema owner)
  | owner, [] => .error (.unresolved (schema.typeName owner) raw .endsEarly)
  | owner, segment :: rest =>
      let refuse (fault : PathFault) : Except Fault (Target schema owner) :=
        .error (.unresolved (schema.typeName owner) raw fault)
      match schema.lookup? owner segment with
      | none => refuse (.unknownProperty segment)
      | some (.scalar kind nullable read) =>
          if !rest.isEmpty then refuse (.insideScalar segment kind)
          else if path.isCollection then refuse (.notCollection segment)
          else .ok (.value kind nullable read)
      | some (.object target get) =>
          if !rest.isEmpty then
            (followSegments schema raw path descend target rest).map (Target.through get)
          else if path.isCollection then refuse (.notCollection segment)
          else refuse (.endsAtObject segment)
      | some (.optionalObject target get) =>
          if !rest.isEmpty then
            (followSegments schema raw path descend target rest).map (Target.throughOptional get)
          else if path.isCollection then refuse (.notCollection segment)
          else refuse (.endsAtObject segment)
      | some (.collection element get) =>
          if rest.isEmpty && path.isCollection then
            (descend element).map (fun (elementPath, target) =>
              .elements (String.intercalate "." path.segments) element get elementPath target)
          else refuse (.endsAtCollection segment)

/-- Resolves a path against the items of a type. The text in a bracket is a path of its own, and
is looked at only when the names before it lead to a collection. -/
def resolve (schema : Schema) (owner : schema.Ty) (raw : String)
    : Except Fault (Target schema owner) :=
  match parsed : Path.parse raw with
  | .error flaw => .error (.unresolved (schema.typeName owner) raw (.malformed flaw))
  | .ok path =>
      let descend (element : schema.Ty) : Except Fault (String × Target schema element) :=
        match bracket : path.element with
        | none => .error (.unresolved (schema.typeName owner) raw .noElementSelector)
        | some elementPath =>
            have : elementPath.length < raw.length := Path.element_length_lt parsed bracket
            (resolve schema element elementPath).map (fun target => (elementPath, target))
      followSegments schema raw path descend owner path.segments
termination_by raw.length

structure Accessor (schema : Schema) (owner : schema.Ty) where
  path : String
  target : Target schema owner

namespace Accessor

variable {schema : Schema} {owner : schema.Ty}

def resolve (schema : Schema) (owner : schema.Ty) (path : String)
    : Except Fault (Accessor schema owner) :=
  (TypedQuery.resolve schema owner path).map (fun target => ⟨path, target⟩)

/-- The kind of the value read; a collection has none. -/
def kind? (accessor : Accessor schema owner) : Option Kind :=
  match accessor.target with
  | .value kind _ _ => some kind
  | .elements .. => none

/-- The value can be null: it is declared so, or the path leads through an optional object, or it
is a text. -/
def isNullable (accessor : Accessor schema owner) : Bool :=
  match accessor.target with
  | .value kind nullable _ => nullable || kind == .text
  | .elements .. => false

/-- The path leads to the elements of a collection. -/
def isCollection (accessor : Accessor schema owner) : Bool :=
  match accessor.target with
  | .value .. => false
  | .elements .. => true

def read? (accessor : Accessor schema owner) (item : schema.Item owner) : Option Value :=
  match accessor.target with
  | .value _ _ read => some (read item)
  | .elements .. => none

end Accessor

end TypedQuery
