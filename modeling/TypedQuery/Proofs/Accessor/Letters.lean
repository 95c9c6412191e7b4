import Mathlib.Data.List.Pairwise
import TypedQuery.Proofs.Accessor.Resolution
import TypedQuery.Proofs.Path.Letters

/-! Paths in any case of letters. Where the names that a type lists differ in more than the case of their
letters, a name in any case leads to one property, be it spelled exactly or not. So the case of letters
changes nothing about where a path leads, from one type to the next and inside brackets.
-/

namespace TypedQuery

open Text

-----------------------------------------------------------------------------------------
-- Names of properties
-----------------------------------------------------------------------------------------

namespace Schema

variable {schema : Schema} {owner : schema.Ty} {name other segment : String}
  {property : Property schema.Item owner}

/-- A type lists the names of its properties, and no two of these are equal up to the case of letters. -/
structure WellNamed (schema : Schema) (owner : schema.Ty) : Prop where
  apart : (schema.propertyNames owner).Pairwise fun name other => sameLetters name other = false
  lists
    : ∀ name,
        (schema.property? owner name).isSome = true ↔ name ∈ schema.propertyNames owner

namespace WellNamed

/-- At most one of the names goes by a segment in whatever case of letters. -/
theorem unique (wellNamed : schema.WellNamed owner) (listed : name ∈ schema.propertyNames owner)
    (another : other ∈ schema.propertyNames owner) (same : sameLetters name segment = true)
    (alike : sameLetters other segment = true)
    : other = name := by
  have symmetric : Std.Symm fun name other => sameLetters name other = false :=
    ⟨fun name other apart => by rw [sameLetters_symm, apart]⟩
  by_contra distinct
  have apart : sameLetters other name = false :=
    List.Pairwise.forall wellNamed.apart another listed distinct
  rw [sameLetters_of_common alike same] at apart
  cases apart

/-- A segment leads to the property whose name it is in some case of letters. If the segment is the exact
name of a property it is of this one, and if not, the first name that is alike is the only one. -/
theorem lookup?_eq_some (wellNamed : schema.WellNamed owner)
    : schema.lookup? owner segment = some property
      ↔ ∃ name, schema.property? owner name = some property
          ∧ sameLetters name segment = true := by
  refine ⟨property?_of_lookup?, ?_⟩
  rintro ⟨name, declared, same⟩
  have listed := (wellNamed.lists name).mp (by simp [declared])
  unfold lookup?
  cases spelled : schema.property? owner segment with
  | some other =>
      -- The search is not made, but would find nothing else.
      have another := (wellNamed.lists segment).mp (by simp [spelled])
      obtain rfl := wellNamed.unique listed another same (sameLetters_refl segment)
      exact spelled.symm.trans declared
  | none =>
      cases alike : (schema.propertyNames owner).find? fun name => sameLetters name segment with
      | none => exact absurd same (List.find?_eq_none.mp alike name listed)
      | some other =>
          have another := List.mem_of_find?_eq_some alike
          obtain rfl := wellNamed.unique listed another same (by simpa using List.find?_some alike)
          exact declared

/-- A segment in lower case leads to the same property. -/
theorem lookup?_lower (wellNamed : schema.WellNamed owner) (segment : String)
    : schema.lookup? owner (lower segment) = schema.lookup? owner segment := by
  ext property
  simp only [wellNamed.lookup?_eq_some, sameLetters_lower]

end WellNamed

end Schema

-----------------------------------------------------------------------------------------
-- Targets without their texts
-----------------------------------------------------------------------------------------

/-- What a target reads and gathers, without the texts that lead there. -/
def Target.untitled {schema : Schema}
    : {owner : schema.Ty} → Target schema owner → Target schema owner
  | _, .value kind nullable read => .value kind nullable read
  | _, .elements _ element gather _ inner => .elements "" element gather "" inner.untitled

section Leading

variable {schema : Schema} {owner linked element : schema.Ty}

/-- Where a path leads if it resolves, without the texts that lead there. -/
def leads? (result : Except Fault (Target schema owner)) : Option (Target schema owner) :=
  result.toOption.map Target.untitled

theorem leads?_eq_some {result : Except Fault (Target schema owner)} {bare : Target schema owner}
    : leads? result = some bare ↔ ∃ target, result = .ok target ∧ target.untitled = bare := by
  cases result <;> simp [leads?, Except.toOption]

theorem leads?_through (get : schema.Item owner → schema.Item linked)
    (result : Except Fault (Target schema linked))
    : leads? (result.map (Target.through get)) = (leads? result).map (Target.through get) := by
  cases result with
  | error fault => rfl
  | ok target => cases target <;> rfl

theorem leads?_throughOptional (get : schema.Item owner → Option (schema.Item linked))
    (result : Except Fault (Target schema linked))
    : leads? (result.map (Target.throughOptional get))
      = (leads? result).map (Target.throughOptional get) := by
  cases result with
  | error fault => rfl
  | ok target => cases target <;> rfl

theorem leads?_elements (dotted : String)
    (gather : schema.Item owner → List (schema.Item element))
    (result : Except Fault (String × Target schema element))
    : leads? (result.map fun (elementPath, target) =>
          Target.elements dotted element gather elementPath target)
      = (leads? (result.map Prod.snd)).map (Target.elements "" element gather "") := by
  cases result <;> rfl

end Leading

-----------------------------------------------------------------------------------------
-- Resolution in lower case
-----------------------------------------------------------------------------------------

section Resolution

variable {schema : Schema} {owner : schema.Ty} {raw lowered : String} {path : Path}
  {descend descendLower : (element : schema.Ty) → Except Fault (String × Target schema element)}

/-- Names in lower case lead to the same as the names, if what is in the bracket does. By induction on the
names. -/
theorem followSegments_lower (wellNamed : ∀ owner, schema.WellNamed owner)
    (alike
      : ∀ element,
          leads? ((descendLower element).map Prod.snd) = leads? ((descend element).map Prod.snd))
    (names : List String)
    : leads?
          (followSegments schema lowered path.lower descendLower owner (names.map Text.lower))
        = leads? (followSegments schema raw path descend owner names) := by
  induction names generalizing owner with
  | nil => rfl
  | cons name rest ih =>
      rw [List.map_cons, followSegments, followSegments, (wellNamed owner).lookup?_lower]
      -- What is done with a property depends on whether names and a bracket follow, not on their letters.
      simp only [List.isEmpty_map, Path.isCollection_lower]
      cases schema.lookup? owner name with
      | none => rfl
      | some property =>
          cases property with
          | scalar kind nullable read =>
              dsimp only
              split
              · rfl
              · split <;> rfl
          | object linked get =>
              dsimp only
              split
              · rw [leads?_through, leads?_through, ih]
              · split <;> rfl
          | optionalObject linked get =>
              dsimp only
              split
              · rw [leads?_throughOptional, leads?_throughOptional, ih]
              · split <;> rfl
          | collection element get =>
              dsimp only
              split
              · rw [leads?_elements, leads?_elements, alike]
              · rfl

/-- A path in lower case leads where the path does. By induction on the length of the path: what is in its
bracket is shorter. -/
theorem resolve_lower (wellNamed : ∀ owner, schema.WellNamed owner) (owner : schema.Ty) (raw : String)
    : leads? (resolve schema owner (Text.lower raw)) = leads? (resolve schema owner raw) := by
  rw [resolve_eq, resolve_eq, Path.parse_lower]
  cases parsed : Path.parse raw with
  | error flaw => rfl
  | ok path =>
      refine followSegments_lower wellNamed (fun element => ?_) path.segments
      unfold descendInto Path.lower
      cases bracketed : path.element with
      | none => rfl
      | some elementPath =>
          have shorter : elementPath.length < raw.length := Path.element_length_lt parsed bracketed
          have unpaired (text : String) (result : Except Fault (Target schema element))
              : (result.map fun target => (text, target)).map Prod.snd = result := by
            cases result <;> rfl
          simp only [Option.map_some, unpaired]
          exact resolve_lower wellNamed element elementPath
termination_by raw.length

/-- Paths that are equal up to the case of letters lead to the same, or nowhere. -/
theorem leads?_resolve_congr (wellNamed : ∀ owner, schema.WellNamed owner) {other : String}
    (same : sameLetters raw other = true)
    : leads? (resolve schema owner raw) = leads? (resolve schema owner other) := by
  rw [← resolve_lower wellNamed owner raw, sameLetters_iff.mp same,
    resolve_lower wellNamed owner other]

/-- An accessor is found exactly if a path leads somewhere. -/
theorem Accessor.exists_resolve_iff
    : (∃ accessor, Accessor.resolve schema owner raw = .ok accessor)
      ↔ ∃ bare, leads? (TypedQuery.resolve schema owner raw) = some bare := by
  simp only [Accessor.resolve_eq_ok, leads?_eq_some]
  constructor
  · rintro ⟨accessor, target, resolved, -⟩
    exact ⟨target.untitled, target, resolved, rfl⟩
  · rintro ⟨bare, target, resolved, -⟩
    exact ⟨⟨raw, target⟩, target, resolved, rfl⟩

/-- An accessor tells and reads the same whatever texts lead to its target. -/
theorem Accessor.reads_alike {first second : Accessor schema owner}
    (same : first.target.untitled = second.target.untitled)
    : first.kind? = second.kind?
      ∧ first.isNullable = second.isNullable
      ∧ first.isCollection = second.isCollection
      ∧ ∀ item, first.read? item = second.read? item := by
  obtain ⟨_, target⟩ := first
  obtain ⟨_, counterpart⟩ := second
  cases target with
  | value =>
      cases counterpart with
      | value =>
          cases same
          exact ⟨rfl, rfl, rfl, fun _ => rfl⟩
      | elements => cases same
  | elements =>
      cases counterpart with
      | value => cases same
      | elements => exact ⟨rfl, rfl, rfl, fun _ => rfl⟩

end Resolution

-----------------------------------------------------------------------------------------
-- Names in a shop
-----------------------------------------------------------------------------------------

namespace Shop

/-- A shop has no properties but under the names that it lists. -/
theorem mem_propertyNames {owner : Ty} {name : String}
    (declared : (schema.property? owner name).isSome = true)
    : name ∈ schema.propertyNames owner := by
  dsimp only [schema] at declared ⊢
  split at declared
  case h_8 => cases declared
  all_goals simp

/-- Names of orders differ in more than the case of letters, and so do those of lines. -/
theorem wellNamed (owner : Ty) : schema.WellNamed owner where
  apart := by cases owner <;> decide +kernel
  lists name := by
    refine ⟨mem_propertyNames, fun listed => ?_⟩
    cases owner
    all_goals
      simp only [schema, List.mem_cons, List.not_mem_nil, or_false] at listed
    · rcases listed with rfl | rfl <;> rfl
    · rcases listed with rfl | rfl | rfl | rfl | rfl <;> rfl

end Shop

end TypedQuery
