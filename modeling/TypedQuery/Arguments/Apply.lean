import TypedQuery.Arguments
import TypedQuery.Order.Compile
import TypedQuery.Source
import TypedQuery.Where.Compile

/-! Arguments applied to a source, in a fixed order: identifiers, where tree, order, skip, take.
Paging needs items in a definite order, given by the arguments or by the source. -/

namespace TypedQuery

namespace Arguments

variable {σ : Type} (schema : Schema) (owner : schema.Ty) [QuerySource σ (schema.Item owner)]

/-- Keeps the items with the identifiers, which needs exactly one key property. -/
def applyIds (arguments : Arguments) (options : ArgumentOptions) (source : σ) : Traced σ :=
  match arguments.ids, options.keyNames with
  | none, _ => pure source
  | some _, [] => pure source
  | some ids, [key] => do
      let predicate ← Traced.ofExcept ((Clause.ofIds key ids).compile schema owner)
      return QuerySource.filter predicate source
  | some _, keys =>
      Traced.ofExcept (.error (.configuration "ids" (.compositeKey keys.length)))

def applyWhere (arguments : Arguments) (hooks : Hooks (schema.Item owner)) (source : σ)
    : Traced σ :=
  match arguments.nodes with
  | none => pure source
  | some nodes => do
      let predicate ← Where.compile schema owner hooks nodes
      return QuerySource.filter predicate source

/-- Paging is refused if neither the arguments nor the source give an order. -/
def checkDefiniteOrder (operation : String) (isDefinite : Bool) : Except QueryError Unit :=
  if isDefinite then .ok () else .error (.configuration operation .unstableOrder)

/-- Orders the items and takes the page asked for. `isStable` tells whether the source has an
order of its own. -/
def applyOrder (arguments : Arguments) (hooks : Hooks (schema.Item owner)) (isStable : Bool)
    (source : σ) : Traced σ := do
  let chain ← Order.compile schema owner hooks arguments.orderBy
  let ordered :=
    match chain with
    | none => source
    | some chain => QuerySource.order chain source
  let isDefinite := chain.isSome || isStable
  let rest ←
    match arguments.skip with
    | none => pure ordered
    | some count => do
        Traced.ofExcept (checkDefiniteOrder "skip" isDefinite)
        pure (QuerySource.skip count ordered)
  match arguments.take with
  | none => return rest
  | some count =>
      Traced.ofExcept (checkDefiniteOrder "take" isDefinite)
      return QuerySource.take count rest

def apply (arguments : Arguments) (hooks : Hooks (schema.Item owner)) (options : ArgumentOptions)
    (source : σ) : Traced σ :=
  if options.omitted then pure source
  else do
    let identified ← applyIds schema owner arguments options source
    let filtered ← applyWhere schema owner arguments hooks identified
    if options.applyOrder then
      applyOrder schema owner arguments hooks (QuerySource.hasStableOrder source) filtered
    else return filtered

/-- Applies arguments to a list of items in memory. -/
def applyToList (arguments : Arguments) (hooks : Hooks (schema.Item owner))
    (options : ArgumentOptions) (items : List (schema.Item owner))
    : Traced (List (schema.Item owner)) := do
  let source ← apply schema owner arguments hooks options (InMemory.mk items)
  return source.items

def record (arguments : Arguments) (hooks : Hooks (schema.Item owner))
    (options : ArgumentOptions) : Traced (LazyQuery (schema.Item owner)) :=
  apply schema owner arguments hooks options (LazyQuery.mk [])

end Arguments

end TypedQuery
