import TypedQuery.Order.Compile
import TypedQuery.Proofs.Filter.Meaning
import TypedQuery.Proofs.Hooks.Outcome
import TypedQuery.Proofs.Order.Preorder
import TypedQuery.Proofs.Value.Standing

/-! Orders by values. Where no hook supplies a comparison, a chain asks its keys one after the other, and
each key compares two items by the values at its path. If these values are of the kinds that the schema
declares, the chain is a total preorder of the items.
-/

namespace TypedQuery

/-- The order of two items that a key asks for, by the values at its path: null first, then NaN, then all
other values, or all of that the other way round. A path without a value gives no order. -/
def OrderKey.order? (schema : Schema) (owner : schema.Ty) (key : OrderKey)
    (left right : schema.Item owner)
    : Option Ordering := do
  let first ← schema.valueAt? owner key.path left
  let second ← schema.valueAt? owner key.path right
  return if key.descending then (first.standing second).swap else first.standing second

/-- What a path to a value reads in an honest schema is of its kind, or null. -/
theorem Schema.Honest.ofKind_of_resolve {schema : Schema} (honest : schema.Honest)
    {owner : schema.Ty} {path : String} {kind : Kind} {nullable : Bool}
    {read : schema.Item owner → Value}
    (leads : resolve schema owner path = .ok (.value kind nullable read)) (item : schema.Item owner)
    : read item = .null ∨ kind.Describes (read item) := by
  obtain ⟨links, name, way, _, _, _, -, -, found, same⟩ := resolve_atEnd leads rfl
  cases same
  exact (honest.admits_atEnd found item).imp And.left id

namespace Order

section Compiled

variable {schema : Schema} {owner : schema.Ty} {hooks : Hooks (schema.Item owner)}
  {key : OrderKey} {keys : List OrderKey} {sorting : SortKey (schema.Item owner)}
  {chain : OrderChain (schema.Item owner)}

/-- A key that sorts by values compares what is read at its path, which must lead to a value. -/
theorem propertyKey_eq_ok
    : propertyKey schema owner key = .ok sorting
      ↔ ∃ kind nullable read,
          resolve schema owner key.path = .ok (.value kind nullable read)
          ∧ ⟨key.path, key.direction, fun left right =>
              ((read left).sortCompare? (read right)).getD .eq⟩ = sorting := by
  unfold propertyKey Accessor.resolve
  cases leads : resolve schema owner key.path with
  | error fault => simp [Except.map]
  | ok target =>
      cases target with
      | value kind nullable read =>
          simp only [Except.map, Accessor.isCollection, Bool.false_eq_true, if_false, Except.ok.injEq,
            Target.value.injEq]
          constructor
          · rintro rfl
            exact ⟨kind, nullable, read, ⟨rfl, rfl, rfl⟩, rfl⟩
          · rintro ⟨_, _, _, ⟨rfl, rfl, rfl⟩, rfl⟩
            rfl
      | elements => simp [Except.map, Accessor.isCollection]

/-- Without a sorter all keys sort by values, by induction on the keys. -/
theorem compileKeys_outcome (unsupplied : hooks.sorter = none) (primary : Bool)
    (keys : List OrderKey)
    : (compileKeys schema owner hooks primary keys).outcome
      = keys.mapM (propertyKey schema owner) := by
  induction keys generalizing primary with
  | nil => rfl
  | cons key rest ih =>
      simp only [compileKeys, compileKey, Hooks.sortKey, unsupplied, Traced.outcome_bind,
        Traced.outcome_pure, Traced.outcome_ofExcept, ok_bind, ih, List.mapM_cons]
      rfl

/-- Without a sorter a chain has, in order, one comparison by values for each key. -/
theorem forall₂_of_compile (unsupplied : hooks.sorter = none)
    (compiled : (compile schema owner hooks keys).outcome = .ok (some chain))
    : List.Forall₂ (fun key sorting => propertyKey schema owner key = .ok sorting) keys
        chain.keys := by
  unfold compile at compiled
  split at compiled
  · cases compiled
  · simp only [Traced.outcome_bind, compileKeys_outcome unsupplied, bind_eq_ok] at compiled
    obtain ⟨sortings, made, same⟩ := compiled
    cases same
    exact mapM_eq_ok.mp made

/-- A comparison by values is a total preorder if the schema is honest. -/
theorem transCmp_of_propertyKey (honest : schema.Honest)
    (made : propertyKey schema owner key = .ok sorting)
    : Std.TransCmp sorting.ascending := by
  obtain ⟨kind, nullable, read, leads, rfl⟩ := propertyKey_eq_ok.mp made
  have ofKind := honest.ofKind_of_resolve leads
  have stands : (fun left right => ((read left).sortCompare? (read right)).getD .eq)
      = fun left right => (read left).standing (read right) := by
    funext left right
    rw [Value.sortCompare?_eq_standing (ofKind left) (ofKind right), Option.getD_some]
  rw [stands]
  exact Value.transCmp_standing read ofKind

/-- A chain that sorts by values is a total preorder if the schema is honest. -/
theorem transCmp_of_compile (honest : schema.Honest) (unsupplied : hooks.sorter = none)
    (compiled : (compile schema owner hooks keys).outcome = .ok (some chain))
    : Std.TransCmp chain.compare := by
  refine OrderChain.transCmp_compareBy fun sorting member => ?_
  obtain ⟨key, -, made⟩ := exists_of_mem_right (forall₂_of_compile unsupplied compiled) member
  exact transCmp_of_propertyKey honest made

/-- A comparison by values gives the order that its key asks for. -/
theorem order?_of_propertyKey (honest : schema.Honest)
    (made : propertyKey schema owner key = .ok sorting) (left right : schema.Item owner)
    : key.order? schema owner left right = some (sorting.compare left right) := by
  obtain ⟨kind, nullable, read, leads, rfl⟩ := propertyKey_eq_ok.mp made
  have ofKind := honest.ofKind_of_resolve leads
  have reads (item : schema.Item owner) : schema.valueAt? owner key.path item = some (read item) := by
    simp [Schema.valueAt?, Accessor.resolve, leads, Except.map, Accessor.read?]
  simp only [OrderKey.order?, reads, SortKey.compare, OrderKey.direction,
    Value.sortCompare?_eq_standing (ofKind left) (ofKind right), Option.getD_some]
  cases key.descending <;> rfl

/-- A chain compares by what its keys ask for, one after the other, by induction on the keys. -/
theorem orders_of_forall₂ (honest : schema.Honest) {sortings : List (SortKey (schema.Item owner))}
    (made : List.Forall₂ (fun key sorting => propertyKey schema owner key = .ok sorting) keys sortings)
    (left right : schema.Item owner)
    : ∃ orders, keys.mapM (fun key => key.order? schema owner left right) = some orders
        ∧ OrderChain.compareBy sortings left right = orders.foldr Ordering.then .eq := by
  induction made with
  | nil => exact ⟨[], rfl, rfl⟩
  | @cons key sorting rest sortings made _ ih =>
      obtain ⟨orders, asked, compares⟩ := ih
      refine ⟨sorting.compare left right :: orders, ?_, ?_⟩
      · simp [List.mapM_cons, order?_of_propertyKey honest made, asked]
      · rw [OrderChain.compareBy_cons, compareLex, compares, List.foldr_cons]

/-- A chain stands for the keys that it was made from. -/
theorem description_of_forall₂ {sortings : List (SortKey (schema.Item owner))}
    (made : List.Forall₂ (fun key sorting => propertyKey schema owner key = .ok sorting) keys sortings)
    : OrderChain.description ⟨sortings⟩ = keys := by
  induction made with
  | nil => rfl
  | @cons key sorting rest sortings made _ ih =>
      obtain ⟨kind, nullable, read, -, rfl⟩ := propertyKey_eq_ok.mp made
      refine congrArg₂ List.cons ?_ ih
      obtain ⟨path, descending⟩ := key
      cases descending <;> rfl

end Compiled

/-- In an honest schema a chain that sorts by values is a total preorder of the items. It compares by the
orders that its keys ask for, the first one that tells the items apart deciding, and stands for these
keys. Any other chain is a total preorder too as soon as the comparison of each key is one. -/
theorem compile_totalPreorder {schema : Schema} (honest : schema.Honest) {owner : schema.Ty}
    {hooks : Hooks (schema.Item owner)} (unsupplied : hooks.sorter = none) {keys : List OrderKey}
    {chain : OrderChain (schema.Item owner)}
    (compiled : (compile schema owner hooks keys).outcome = .ok (some chain))
    : Std.TransCmp chain.compare
      ∧ (∀ left right, ∃ orders,
          keys.mapM (fun key => key.order? schema owner left right) = some orders
          ∧ chain.compare left right = orders.foldr Ordering.then .eq)
      ∧ chain.description = keys
      ∧ ∀ (α : Type) (other : OrderChain α),
          (∀ key ∈ other.keys, Std.TransCmp key.ascending) → Std.TransCmp other.compare := by
  have made := forall₂_of_compile unsupplied compiled
  refine ⟨OrderChain.transCmp_compareBy fun sorting member => ?_, orders_of_forall₂ honest made,
    description_of_forall₂ made, fun α other preorders => OrderChain.transCmp_compareBy preorders⟩
  obtain ⟨key, -, made⟩ := exists_of_mem_right made member
  exact transCmp_of_propertyKey honest made

/-- The keys of readings by their level, the highest first, and then by their error. -/
def levelKeys : List OrderKey := [⟨"level", true⟩, ⟨"error", false⟩]

/-- Readings by level: a level that is no number comes after the numbers, and readings without a level
come at the end, the exacter ones first. -/
theorem compile_totalPreorder_levelKeys
    : Gauge.schema.Honest
      ∧ ∃ chain,
          (compile Gauge.schema () {} levelKeys).outcome = .ok (some chain)
          ∧ Std.TransCmp chain.compare
          ∧ chain.compare ⟨some .nan, .ofInt 0⟩ ⟨some (.ofInt 5), .ofInt 0⟩ = .gt
          ∧ chain.compare ⟨some .nan, .ofInt 0⟩ ⟨none, .ofInt 0⟩ = .lt
          ∧ chain.compare ⟨none, .ofInt 1⟩ ⟨none, .ofInt 2⟩ = .lt := by
  obtain ⟨found, made⟩ := exists_eq_ok (by decide +kernel
    : (compile Gauge.schema () {} levelKeys).outcome.isOk = true)
  have keyed : (compile Gauge.schema () {} levelKeys).outcome.toOption.join.isSome = true := by
    decide +kernel
  rw [made] at keyed
  obtain ⟨chain, rfl⟩ := Option.isSome_iff_exists.mp keyed
  obtain ⟨preorder, compares, -, -⟩ := compile_totalPreorder Gauge.honest rfl made
  have asked {left right : Gauge.Reading} (orders : List Ordering)
      (asks : levelKeys.mapM (fun key => key.order? Gauge.schema () left right) = some orders)
      : chain.compare left right = orders.foldr Ordering.then .eq := by
    obtain ⟨others, same, compared⟩ := compares left right
    obtain rfl : orders = others := Option.some.inj (asks.symm.trans same)
    exact compared
  exact ⟨Gauge.honest, chain, made, preorder, asked [.gt, .eq] (by decide +kernel),
    asked [.lt, .eq] (by decide +kernel), asked [.eq, .lt] (by decide +kernel)⟩

end Order

end TypedQuery
