import TypedQuery.Proofs.Accessor.Resolution
import TypedQuery.Proofs.Path.Spelling

/-! The objects along a path. A path to a value leads over objects, of which some may be missing, to
the one that has the value. What is read is the value of that object, or null without it.
-/

namespace TypedQuery

-----------------------------------------------------------------------------------------
-- Ways from object to object
-----------------------------------------------------------------------------------------

/-- A way from the items of a type to the objects of another. Only a way with an optional link can
fail to lead to an object. -/
structure Way (schema : Schema) (owner : schema.Ty) where
  last : schema.Ty
  /-- Some link on the way is optional. -/
  optional : Bool
  /-- The object at the end, unless a link on the way is missing. -/
  object? : schema.Item owner → Option (schema.Item last)
  held : optional = false → ∀ item, (object? item).isSome = true

namespace Way

variable {schema : Schema} {owner linked : schema.Ty}

/-- The way without any link. -/
def here (owner : schema.Ty) : Way schema owner :=
  ⟨owner, false, some, fun _ _ => rfl⟩

/-- The way from an item that holds the object it goes on from. -/
def through (get : schema.Item owner → schema.Item linked) (way : Way schema linked)
    : Way schema owner :=
  ⟨way.last, way.optional, fun item => way.object? (get item),
    fun required item => way.held required (get item)⟩

/-- The way from an item that may hold the object it goes on from. -/
def throughOptional (get : schema.Item owner → Option (schema.Item linked))
    (way : Way schema linked)
    : Way schema owner :=
  ⟨way.last, true, fun item => (get item).bind way.object?, nofun⟩

end Way

/-- The way over the objects that names lead to, one after the other. -/
def Schema.wayAlong? (schema : Schema)
    : (owner : schema.Ty) → List String → Option (Way schema owner)
  | owner, [] => some (.here owner)
  | owner, name :: rest =>
      match schema.lookup? owner name with
      | some (.object linked get) => (schema.wayAlong? linked rest).map (Way.through get)
      | some (.optionalObject linked get) =>
          (schema.wayAlong? linked rest).map (Way.throughOptional get)
      | _ => none

-----------------------------------------------------------------------------------------
-- Values at the end of a way
-----------------------------------------------------------------------------------------

namespace Target

variable {schema : Schema} {owner linked : schema.Ty}

/-- The value of the object at the end of a way. It is null if there is no object, so it can be
null if that can happen. -/
def atEnd (way : Way schema owner) (kind : Kind) (nullable : Bool)
    (read : schema.Item way.last → Value)
    : Target schema owner :=
  .value kind (nullable || way.optional) fun item => ((way.object? item).map read).getD .null

theorem atEnd_here (kind : Kind) (nullable : Bool) (read : schema.Item owner → Value)
    : atEnd (.here owner) kind nullable read = .value kind nullable read := by
  simp only [atEnd, Way.here, Bool.or_false, Option.map_some, Option.getD_some]

theorem through_atEnd (get : schema.Item owner → schema.Item linked) (way : Way schema linked)
    (kind : Kind) (nullable : Bool) (read : schema.Item way.last → Value)
    : (atEnd way kind nullable read).through get = atEnd (way.through get) kind nullable read :=
  rfl

theorem throughOptional_atEnd (get : schema.Item owner → Option (schema.Item linked))
    (way : Way schema linked) (kind : Kind) (nullable : Bool)
    (read : schema.Item way.last → Value)
    : (atEnd way kind nullable read).throughOptional get
      = atEnd (way.throughOptional get) kind nullable read := by
  simp only [atEnd, throughOptional, Way.throughOptional, Bool.or_true]
  congr 1
  funext item
  cases get item <;> rfl

/-- The target is the elements of a collection. -/
def isCollection : Target schema owner → Bool
  | .value .. => false
  | .elements .. => true

@[simp] theorem isCollection_through (get : schema.Item owner → schema.Item linked)
    (target : Target schema linked)
    : (target.through get).isCollection = target.isCollection := by
  cases target <;> rfl

@[simp] theorem isCollection_throughOptional
    (get : schema.Item owner → Option (schema.Item linked)) (target : Target schema linked)
    : (target.throughOptional get).isCollection = target.isCollection := by
  cases target <;> rfl

end Target

theorem Accessor.isCollection_eq {schema : Schema} {owner : schema.Ty}
    (accessor : Accessor schema owner)
    : accessor.isCollection = accessor.target.isCollection := by
  unfold Accessor.isCollection
  cases accessor.target <;> rfl

namespace Follows

variable {schema : Schema} {owner : schema.Ty} {path : Path} {names : List String}
  {target : Target schema owner}
  {descend : (element : schema.Ty) → Except Fault (String × Target schema element)}

/-- Names lead to elements exactly if their path goes on in a bracket, by induction on the way
there. -/
theorem isCollection_eq (follows : Follows schema path descend owner names target)
    : target.isCollection = path.isCollection := by
  induction follows with
  | value found plain => exact plain.symm
  | object found below ih => rw [Target.isCollection_through, ih]
  | optionalObject found below ih => rw [Target.isCollection_throughOptional, ih]
  | elements found bracketed descended => exact bracketed.symm

/-- Without a bracket all names but the last are links, and the last one names a value of the object
that they lead to. By induction on the way there. -/
theorem eq_atEnd (follows : Follows schema path descend owner names target)
    (plain : path.isCollection = false)
    : ∃ links name way kind nullable read,
        names = links ++ [name]
        ∧ schema.wayAlong? owner links = some way
        ∧ schema.lookup? way.last name = some (.scalar kind nullable read)
        ∧ target = .atEnd way kind nullable read := by
  induction follows with
  | value found unbracketed =>
      next name kind nullable read =>
      exact ⟨[], name, .here _, kind, nullable, read, rfl, rfl, found,
        (Target.atEnd_here kind nullable read).symm⟩
  | object found below ih =>
      next name _ _ get _ =>
      obtain ⟨links, last, way, kind, nullable, read, rfl, along, reads, rfl⟩ := ih
      refine ⟨name :: links, last, way.through get, kind, nullable, read, rfl, ?_, reads,
        Target.through_atEnd get way kind nullable read⟩
      simp [Schema.wayAlong?, found, along]
  | optionalObject found below ih =>
      next name _ _ get _ =>
      obtain ⟨links, last, way, kind, nullable, read, rfl, along, reads, rfl⟩ := ih
      refine ⟨name :: links, last, way.throughOptional get, kind, nullable, read, rfl, ?_, reads,
        Target.throughOptional_atEnd get way kind nullable read⟩
      simp [Schema.wayAlong?, found, along]
  | elements found bracketed descended => simp [plain] at bracketed

end Follows

/-- A path that resolves addresses a collection exactly if it has a bracket. -/
theorem isCollection_iff_of_resolve {schema : Schema} {owner : schema.Ty} {raw : String}
    {target : Target schema owner} (resolved : resolve schema owner raw = .ok target)
    : target.isCollection = true ↔ '[' ∈ raw.toList ∨ ']' ∈ raw.toList := by
  rw [resolve_eq] at resolved
  split at resolved
  · cases resolved
  · next path parsed =>
    rw [(follows_of_followSegments resolved).isCollection_eq]
    exact Path.isCollection_iff_of_parse parsed

/-- A path that reads a value has no bracket: it names the links to an object and a value of it. -/
theorem resolve_atEnd {schema : Schema} {owner : schema.Ty} {raw : String}
    {target : Target schema owner} (resolved : resolve schema owner raw = .ok target)
    (single : target.isCollection = false)
    : ∃ links name way kind nullable read,
        Path.names raw = links ++ [name]
        ∧ schema.wayAlong? owner links = some way
        ∧ schema.lookup? way.last name = some (.scalar kind nullable read)
        ∧ target = .atEnd way kind nullable read := by
  rw [resolve_eq] at resolved
  split at resolved
  · cases resolved
  · next path parsed =>
    have follows := follows_of_followSegments resolved
    have plain : path.isCollection = false := follows.isCollection_eq ▸ single
    have unbracketed : path.element = none := by simpa [Path.isCollection] using plain
    have spelled : String.intercalate "." path.segments = raw := by
      simpa only [Path.toText, unbracketed] using (Path.isWritable_of_parse parsed).2
    rw [← spelled, Path.names_intercalate_segments parsed]
    exact follows.eq_atEnd plain

end TypedQuery
