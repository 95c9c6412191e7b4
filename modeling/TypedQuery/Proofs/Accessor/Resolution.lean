import TypedQuery.Accessor
import TypedQuery.Proofs.Fallible
import TypedQuery.Proofs.Path.Names

/-! Where paths lead, read off the schema alone. A path without a bracket reads a value. A path
with one gathers the elements of the collection that its names lead to, and the text in the bracket
leads on from each element.
-/

namespace TypedQuery

-----------------------------------------------------------------------------------------
-- Collections by their names
-----------------------------------------------------------------------------------------

/-- A collection that can be reached from the items of a type. -/
structure Collection (schema : Schema) (owner : schema.Ty) where
  element : schema.Ty
  gather : schema.Item owner → List (schema.Item element)

namespace Collection

variable {schema : Schema} {owner linked : schema.Ty}

/-- The collection seen from an item that holds the object it is reached from. -/
def through (get : schema.Item owner → schema.Item linked) (collection : Collection schema linked)
    : Collection schema owner :=
  ⟨collection.element, fun item => collection.gather (get item)⟩

/-- The collection seen from an item that may hold the object it is reached from. It has no
elements if the object is missing. -/
def throughOptional (get : schema.Item owner → Option (schema.Item linked))
    (collection : Collection schema linked)
    : Collection schema owner :=
  ⟨collection.element, fun item => ((get item).map collection.gather).getD []⟩

end Collection

/-- The collection that names lead to: all names but the last name objects, the last one names the
collection. -/
def Schema.collectionAt? (schema : Schema)
    : (owner : schema.Ty) → List String → Option (Collection schema owner)
  | _, [] => none
  | owner, name :: rest =>
      match schema.lookup? owner name with
      | some (.collection element get) => if rest.isEmpty then some ⟨element, get⟩ else none
      | some (.object target get) =>
          (schema.collectionAt? target rest).map (Collection.through get)
      | some (.optionalObject target get) =>
          (schema.collectionAt? target rest).map (Collection.throughOptional get)
      | _ => none

-----------------------------------------------------------------------------------------
-- Resolution, one step at a time
-----------------------------------------------------------------------------------------

/-- How the text in a path's bracket is resolved for the elements of a collection. -/
def descendInto (schema : Schema) (owner : schema.Ty) (raw : String) (path : Path)
    (element : schema.Ty)
    : Except Fault (String × Target schema element) :=
  match path.element with
  | none => .error (.unresolved (schema.typeName owner) raw .noElementSelector)
  | some elementPath =>
      (resolve schema element elementPath).map (fun target => (elementPath, target))

/-- The text in a path's bracket leads on from the elements exactly if it resolves for them. -/
theorem descendInto_eq_ok {schema : Schema} {owner element : schema.Ty} {raw elementPath : String}
    {path : Path} {inner : Target schema element}
    : descendInto schema owner raw path element = .ok (elementPath, inner)
      ↔ path.element = some elementPath ∧ resolve schema element elementPath = .ok inner := by
  unfold descendInto
  split
  · next absent => simp [absent]
  · next text present =>
    simp only [map_eq_ok, present, Option.some.injEq, Prod.mk.injEq]
    constructor
    · rintro ⟨target, resolves, rfl, rfl⟩
      exact ⟨rfl, resolves⟩
    · rintro ⟨rfl, resolves⟩
      exact ⟨inner, resolves, rfl, rfl⟩

/-- Resolution reads the path and follows its names. -/
theorem resolve_eq (schema : Schema) (owner : schema.Ty) (raw : String)
    : resolve schema owner raw
      = match Path.parse raw with
        | .error flaw => .error (.unresolved (schema.typeName owner) raw (.malformed flaw))
        | .ok path =>
            followSegments schema raw path (descendInto schema owner raw path) owner
              path.segments := by
  rw [resolve]
  split
  · next flaw parsed => simp only [parsed]
  · next path parsed =>
    simp only [parsed]
    congr 1
    funext element
    unfold descendInto
    split
    · next absent => split <;> simp_all
    · next elementPath present => split <;> simp_all

/-- How the names of a path lead to a target: through objects, missing ones among them, to a value
or to a collection. `descend` tells where a bracket leads from the elements. -/
inductive Follows (schema : Schema) (path : Path)
    (descend : (element : schema.Ty) → Except Fault (String × Target schema element))
    : (owner : schema.Ty) → List String → Target schema owner → Prop
  | value {owner name kind nullable read}
    (found : schema.lookup? owner name = some (.scalar kind nullable read))
    (plain : path.isCollection = false)
    : Follows schema path descend owner [name] (.value kind nullable read)
  | object {owner name rest linked get target}
    (found : schema.lookup? owner name = some (.object linked get))
    (below : Follows schema path descend linked rest target)
    : Follows schema path descend owner (name :: rest) (target.through get)
  | optionalObject {owner name rest linked get target}
    (found : schema.lookup? owner name = some (.optionalObject linked get))
    (below : Follows schema path descend linked rest target)
    : Follows schema path descend owner (name :: rest) (target.throughOptional get)
  | elements {owner name element get elementPath target}
    (found : schema.lookup? owner name = some (.collection element get))
    (bracketed : path.isCollection = true)
    (descended : descend element = .ok (elementPath, target))
    : Follows schema path descend owner [name]
        (.elements (String.intercalate "." path.segments) element get elementPath target)

section Following

variable {schema : Schema} {owner : schema.Ty} {raw : String} {path : Path}
variable {descend : (element : schema.Ty) → Except Fault (String × Target schema element)}

/-- Following at least one name is the only way to a target. -/
theorem Follows.names_ne_nil {names : List String} {target : Target schema owner}
    (follows : Follows schema path descend owner names target)
    : names ≠ [] := by
  cases follows <;> simp

/-- Names that are followed lead to a target, by induction on the names. -/
theorem follows_of_followSegments {names : List String} {target : Target schema owner}
    (followed : followSegments schema raw path descend owner names = .ok target)
    : Follows schema path descend owner names target := by
  induction names generalizing owner with
  | nil => simp [followSegments] at followed
  | cons name rest ih =>
      unfold followSegments at followed
      dsimp only at followed
      cases found : schema.lookup? owner name with
      | none => simp [found] at followed
      | some property =>
          -- A value or a collection must be the last name, an object must not be.
          cases property with
          | scalar kind nullable read =>
              cases rest with
              | cons _ _ => simp [found] at followed
              | nil =>
                  cases plain : path.isCollection with
                  | true => simp [found, plain] at followed
                  | false =>
                      simp only [found, plain, List.isEmpty_nil] at followed
                      cases followed
                      exact .value found plain
          | object linked get =>
              cases rest with
              | nil => cases ends : path.isCollection <;> simp [found, ends] at followed
              | cons next others =>
                  simp only [found, List.isEmpty_cons, Bool.not_false, if_true, map_eq_ok]
                    at followed
                  obtain ⟨below, followed, rfl⟩ := followed
                  exact .object found (ih followed)
          | optionalObject linked get =>
              cases rest with
              | nil => cases ends : path.isCollection <;> simp [found, ends] at followed
              | cons next others =>
                  simp only [found, List.isEmpty_cons, Bool.not_false, if_true, map_eq_ok]
                    at followed
                  obtain ⟨below, followed, rfl⟩ := followed
                  exact .optionalObject found (ih followed)
          | collection element get =>
              cases rest with
              | cons _ _ => simp [found] at followed
              | nil =>
                  cases bracketed : path.isCollection with
                  | false => simp [found, bracketed] at followed
                  | true =>
                      simp only [found, bracketed, List.isEmpty_nil, Bool.and_true, if_true,
                        map_eq_ok] at followed
                      obtain ⟨⟨elementPath, target⟩, descended, rfl⟩ := followed
                      exact .elements found bracketed descended

/-- Names that lead to a target are followed to it, by induction on the way there. -/
theorem Follows.followSegments_eq {names : List String} {target : Target schema owner}
    (follows : Follows schema path descend owner names target)
    : followSegments schema raw path descend owner names = .ok target := by
  induction follows with
  | value found plain => simp [followSegments, found, plain]
  | object found below ih => simp [followSegments, found, below.names_ne_nil, ih, Except.map]
  | optionalObject found below ih =>
      simp [followSegments, found, below.names_ne_nil, ih, Except.map]
  | elements found bracketed descended =>
      simp [followSegments, found, bracketed, descended, Except.map]

/-- Names that lead to elements name their collection, and the bracket leads on from it. By
induction on the way there; an object on the way is held by the item or may be missing. -/
theorem Follows.collectionAt? {names : List String} {dotted elementPath : String}
    {element : schema.Ty} {gather : schema.Item owner → List (schema.Item element)}
    {inner : Target schema element}
    (follows
      : Follows schema path descend owner names
          (.elements dotted element gather elementPath inner))
    : dotted = String.intercalate "." path.segments
      ∧ schema.collectionAt? owner names = some ⟨element, gather⟩
      ∧ descend element = .ok (elementPath, inner) := by
  generalize same : Target.elements dotted element gather elementPath inner = target at follows
  induction follows with
  | value found plain => cases same
  | object found below ih =>
      next target =>
      cases target with
      | value kind nullable read => cases same
      | elements =>
          cases same
          obtain ⟨rfl, reached, descended⟩ := ih rfl
          exact ⟨rfl, by simp [Schema.collectionAt?, found, reached, Collection.through], descended⟩
  | optionalObject found below ih =>
      next get target =>
      cases target with
      | value kind nullable read => cases same
      | elements =>
          cases same
          obtain ⟨rfl, reached, descended⟩ := ih rfl
          refine ⟨rfl, ?_, descended⟩
          simp only [Schema.collectionAt?, found, reached, Option.map_some,
            Collection.throughOptional, Option.some.injEq]
          congr 1
          funext item
          cases get item <;> rfl
  | elements found bracketed descended =>
      cases same
      exact ⟨rfl, by simp [Schema.collectionAt?, found], descended⟩

/-- Names that lead to a target are what resolution follows. -/
theorem Follows.resolve_eq_ok {raw : String} {path : Path} {target : Target schema owner}
    (parsed : Path.parse raw = .ok path)
    (follows
      : Follows schema path (descendInto schema owner raw path) owner path.segments target)
    : resolve schema owner raw = .ok target := by
  rw [resolve_eq, parsed]
  exact follows.followSegments_eq

/-- The name of a value is a path to it. -/
theorem resolve_name {name : String} {kind : Kind} {nullable : Bool}
    {read : schema.Item owner → Value} (parsed : Path.parse name = .ok ⟨[name], none⟩)
    (found : schema.lookup? owner name = some (.scalar kind nullable read))
    : resolve schema owner name = .ok (.value kind nullable read) :=
  Follows.resolve_eq_ok parsed (.value found rfl)

end Following

/-- An accessor is a path with the target that it resolves to. -/
theorem Accessor.resolve_eq_ok {schema : Schema} {owner : schema.Ty} {path : String}
    {accessor : Accessor schema owner}
    : Accessor.resolve schema owner path = .ok accessor
      ↔ ∃ target, TypedQuery.resolve schema owner path = .ok target ∧ ⟨path, target⟩ = accessor :=
  map_eq_ok

/-- A path that gathers elements spells out the names of their collection, and its bracket leads
on from each element. -/
theorem resolve_elements {schema : Schema} {owner element : schema.Ty}
    {raw dotted elementPath : String}
    {gather : schema.Item owner → List (schema.Item element)} {inner : Target schema element}
    (resolved : resolve schema owner raw = .ok (.elements dotted element gather elementPath inner))
    : schema.collectionAt? owner (Path.names dotted) = some ⟨element, gather⟩
      ∧ resolve schema element elementPath = .ok inner := by
  rw [resolve_eq] at resolved
  split at resolved
  · cases resolved
  · next path parsed =>
    obtain ⟨rfl, reached, descended⟩ := (follows_of_followSegments resolved).collectionAt?
    rw [Path.names_intercalate_segments parsed]
    exact ⟨reached, (descendInto_eq_ok.mp descended).2⟩

-----------------------------------------------------------------------------------------
-- A schema with links, collections and a cycle, for closed instances
-----------------------------------------------------------------------------------------

namespace Shop

/-- Some pieces of an article; without a quantity they are not counted yet. -/
structure Line where
  article : String
  quantity : Option Int64

/-- An order of a customer, with a gift if there is one, and the orders that came of it. -/
structure Order where
  number : Int64
  customer : String
  gift : Option Line
  lines : List Line
  followUps : List Order

inductive Ty where
  | line
  | order

/-- The items of a type. -/
abbrev Item : Ty → Type
  | .line => Line
  | .order => Order

/-- Lines have values only. Orders lead to a line that may be missing, to lines and to orders. -/
def schema : Schema where
  Ty := Ty
  Item := Item
  typeName
    | .line => "Line"
    | .order => "Order"
  propertyNames
    | .line => ["article", "quantity"]
    | .order => ["number", "customer", "gift", "lines", "followUps"]
  property?
    | .line, "article" => some (.scalar .text false fun line => .text line.article)
    | .line, "quantity" =>
        some (.scalar .integer true fun line =>
          (line.quantity.map fun count => Value.number (.signed count)).getD .null)
    | .order, "number" => some (.scalar .integer false fun order => .number (.signed order.number))
    | .order, "customer" => some (.scalar .text false fun order => .text order.customer)
    | .order, "gift" => some (.optionalObject .line fun order => order.gift)
    | .order, "lines" => some (.collection .line fun order => order.lines)
    | .order, "followUps" => some (.collection .order fun order => order.followUps)
    | _, _ => none

/-- An order of two lines, one of them not counted yet, that led to a further order. -/
def order : Order :=
  ⟨7, "Ann", none, [⟨"nail", some 40⟩, ⟨"hook", none⟩],
    [⟨8, "Ann", some ⟨"tape", some 1⟩, [⟨"nail", some 5⟩], []⟩]⟩

/-- The quantity of a line is an integer, or null while its pieces are not counted. -/
theorem resolve_quantity
    : resolve schema .line "quantity"
      = .ok (.value .integer true fun line =>
          (line.quantity.map fun count => Value.number (.signed count)).getD .null) :=
  resolve_name rfl rfl

end Shop

end TypedQuery
