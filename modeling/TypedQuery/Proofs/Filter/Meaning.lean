import TypedQuery.Proofs.Clause.Leaf
import TypedQuery.Proofs.Accessor.Resolution

/-! What a filter says about an item, read off the filter and the schema alone, the way a store
reads it. A predicate is told by its filter if its test comes to the same on every item.
-/

namespace TypedQuery

/-- The value at a path of an item; a path that leads nowhere, or to a collection, has none. -/
def Schema.valueAt? (schema : Schema) (owner : schema.Ty) (path : String)
    (item : schema.Item owner)
    : Option Value :=
  match Accessor.resolve schema owner path with
  | .ok accessor => accessor.read? item
  | .error _ => none

namespace Filter

/-- Whether an item satisfies a filter. Paths inside `any` start from the elements. A search or a
pattern needs a text, so null never satisfies it. There is no answer if a path does not lead where
its filter needs it to, or if the condition is known by name only. -/
def eval? (schema : Schema) : Filter → (owner : schema.Ty) → schema.Item owner → Option Bool
  | .constant value, _, _ => some value
  | .compare path op operand, owner, item =>
      (schema.valueAt? owner path item).map (fun field => op.holds field operand)
  | .text path op needle, owner, item =>
      (schema.valueAt? owner path item).map (fun field =>
        match field with
        | .text content => op.holds content needle
        | _ => false)
  | .like path pattern, owner, item =>
      (schema.valueAt? owner path item).map (fun field =>
        match field with
        | .text content => Text.matchesPattern pattern content
        | _ => false)
  | .isIn path operands, owner, item =>
      (schema.valueAt? owner path item).map (fun field =>
        operands.any (fun operand => field.equals operand))
  | .any path filter, owner, item =>
      (schema.collectionAt? owner (Path.names path)).bind (fun collection =>
        ((collection.gather item).mapM (filter.eval? schema collection.element)).map
          (fun answers => answers.any id))
  | .not filter, owner, item => (filter.eval? schema owner item).map (fun answer => !answer)
  | .and left right, owner, item =>
      (left.eval? schema owner item).bind (fun first =>
        (right.eval? schema owner item).map (fun second => first && second))
  | .or left right, owner, item =>
      (left.eval? schema owner item).bind (fun first =>
        (right.eval? schema owner item).map (fun second => first || second))
  | .custom _, _, _ => none

end Filter

-----------------------------------------------------------------------------------------
-- Predicates told by their filters
-----------------------------------------------------------------------------------------

/-- The filter of the predicate has an answer for every item, which is that of its test. -/
def Told (schema : Schema) (owner : schema.Ty) (predicate : Predicate (schema.Item owner)) : Prop :=
  ∀ item, predicate.filter.eval? schema owner item = some (predicate.test item)

namespace Told

variable {schema : Schema} {owner : schema.Ty}
  {left right predicate : Predicate (schema.Item owner)}

theorem constant (value : Bool) : Told schema owner (Predicate.constant value) :=
  fun _ => rfl

theorem and (first : Told schema owner left) (second : Told schema owner right)
    : Told schema owner (left.and right) := by
  intro item
  simp [Predicate.and, Filter.eval?, first item, second item]

theorem or (first : Told schema owner left) (second : Told schema owner right)
    : Told schema owner (left.or right) := by
  intro item
  simp [Predicate.or, Filter.eval?, first item, second item]

theorem not (told : Told schema owner predicate) : Told schema owner predicate.not := by
  intro item
  simp [Predicate.not, Filter.eval?, told item]

theorem negatedIf (told : Told schema owner predicate) (negate : Bool)
    : Told schema owner (predicate.negatedIf negate) := by
  cases negate with
  | false => exact told
  | true => exact told.not

/-- A predicate told for the elements of a collection is told for the items that hold it. -/
theorem any {element : schema.Ty} {path : String}
    {gather : schema.Item owner → List (schema.Item element)}
    {inner : Predicate (schema.Item element)}
    (reached : schema.collectionAt? owner (Path.names path) = some ⟨element, gather⟩)
    (told : Told schema element inner)
    : Told schema owner (Predicate.any path gather inner) := by
  intro item
  have answers : (gather item).mapM (inner.filter.eval? schema element)
      = some ((gather item).map inner.test) := by
    rw [funext told]
    exact List.mapM_pure
  simp [Predicate.any, Filter.eval?, reached, answers, List.any_map]

/-- Every way to compile a comparison on the value at a path is told by its filter. A range is told
by both its forms, the two bounds and the one value that equal bounds leave. -/
theorem built {value : ReadValue (schema.Item owner)} {tokens : List Token}
    {comparison : Comparison}
    (reads : ∀ item, schema.valueAt? owner value.path item = some (value.read item))
    (built : value.Built tokens comparison predicate)
    : Told schema owner predicate := by
  have compare (op : CompareOp) (operand : Value)
      : Told schema owner (value.compare op operand) := by
    intro item
    simp [ReadValue.compare, Filter.eval?, reads item]
  have isIn (operands : List Value) : Told schema owner (value.isIn operands) := by
    intro item
    simp [ReadValue.isIn, Filter.eval?, reads item]
  cases built with
  | isIn converted => exact isIn _
  | notIn converted => exact (isIn _).not
  | compare compares converted => exact compare _ _
  | between converted =>
      unfold ReadValue.between
      split
      · exact compare _ _
      · exact (compare _ _).and (compare _ _)
  | text searches =>
      intro item
      simp only [ReadValue.text, Filter.eval?, reads item, Option.map_some]
      cases value.read item <;> rfl
  | like =>
      intro item
      simp only [ReadValue.like, Filter.eval?, reads item, Option.map_some]
      cases value.read item <;> rfl

end Told

end TypedQuery
