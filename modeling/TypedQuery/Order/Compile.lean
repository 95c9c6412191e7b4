import TypedQuery.Hooks

/-! Order keys compiled into chains of comparisons. A key sorts items by the value at its path,
null first, unless a hook supplies a comparison for it. -/

namespace TypedQuery

namespace Order

/-- Compares two items by the value read from each. Values of different kinds, and items without a
value, count as equal, so that the keys after this one decide. -/
def compareReads {α : Type} (read? : α → Option Value) (left right : α) : Ordering :=
  match read? left, read? right with
  | some left, some right => (left.sortCompare? right).getD .eq
  | _, _ => .eq

/-- The comparison by the value at a key's path, which must not lead to a collection. -/
def propertyKey (schema : Schema) (owner : schema.Ty) (key : OrderKey)
    : Except QueryError (SortKey (schema.Item owner)) :=
  match Accessor.resolve schema owner key.path with
  | .error fault => .error (.faulty fault none)
  | .ok accessor =>
      if accessor.isCollection then
        .error (.faulty (.unresolved (schema.typeName owner) key.path .orderByCollection) none)
      else .ok ⟨key.path, key.direction, compareReads accessor.read?⟩

/-- The comparison for a key, supplied by a hook or by its path. -/
def compileKey (schema : Schema) (owner : schema.Ty) (hooks : Hooks (schema.Item owner))
    (key : OrderKey) (primary : Bool) : Traced (SortKey (schema.Item owner)) := do
  match ← hooks.sortKey key primary with
  | some supplied => return supplied
  | none => Traced.ofExcept (propertyKey schema owner key)

/-- The comparisons for a list of keys, of which the first is the primary one if `primary`. -/
def compileKeys (schema : Schema) (owner : schema.Ty) (hooks : Hooks (schema.Item owner))
    : (primary : Bool) → List OrderKey → Traced (List (SortKey (schema.Item owner)))
  | _, [] => return []
  | primary, key :: rest => do
      let first ← compileKey schema owner hooks key primary
      return first :: (← compileKeys schema owner hooks false rest)

/-- The chain of a list of keys. No keys at all ask for no order. -/
def compile (schema : Schema) (owner : schema.Ty) (hooks : Hooks (schema.Item owner))
    (keys : List OrderKey) : Traced (Option (OrderChain (schema.Item owner))) := do
  if keys.isEmpty then return none
  else return some ⟨← compileKeys schema owner hooks true keys⟩

end Order

end TypedQuery
