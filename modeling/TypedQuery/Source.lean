import TypedQuery.Filter
import TypedQuery.Order

/-! Sources of items that can be filtered, ordered and paged: a list in memory, on which every
step takes effect at once, and a query that only records its steps for a store to run later. -/

namespace TypedQuery

/-- Something that steps of a query can be applied to. -/
class QuerySource (σ : Type) (α : outParam Type) where
  filter : Predicate α → σ → σ
  order : OrderChain α → σ → σ
  skip : UInt64 → σ → σ
  take : UInt64 → σ → σ
  /-- The items come in a fixed order even if none is asked for. -/
  hasStableOrder : σ → Bool

structure InMemory (α : Type) where
  items : List α

namespace InMemory

variable {α : Type}

def filter (predicate : Predicate α) (source : InMemory α) : InMemory α :=
  ⟨source.items.filter predicate.test⟩

def order (chain : OrderChain α) (source : InMemory α) : InMemory α :=
  ⟨chain.sort source.items⟩

def skip (count : UInt64) (source : InMemory α) : InMemory α :=
  ⟨source.items.drop count.toNat⟩

def take (count : UInt64) (source : InMemory α) : InMemory α :=
  ⟨source.items.take count.toNat⟩

end InMemory

instance {α : Type} : QuerySource (InMemory α) α where
  filter := InMemory.filter
  order := InMemory.order
  skip := InMemory.skip
  take := InMemory.take
  hasStableOrder _ := true

/-- A step of a query. -/
inductive QueryStep (α : Type) where
  | filter (predicate : Predicate α)
  | order (chain : OrderChain α)
  | skip (count : UInt64)
  | take (count : UInt64)

def QueryStep.run {α : Type} (step : QueryStep α) (source : InMemory α) : InMemory α :=
  match step with
  | .filter predicate => source.filter predicate
  | .order chain => source.order chain
  | .skip count => source.skip count
  | .take count => source.take count

/-- A query whose steps are recorded, the first step first. The order in which a store has its
items is not known. -/
structure LazyQuery (α : Type) where
  steps : List (QueryStep α) := []

namespace LazyQuery

variable {α : Type}

def push (step : QueryStep α) (query : LazyQuery α) : LazyQuery α :=
  ⟨query.steps ++ [step]⟩

def execute (query : LazyQuery α) (items : List α) : List α :=
  (query.steps.foldl (fun source step => step.run source) (InMemory.mk items)).items

end LazyQuery

instance {α : Type} : QuerySource (LazyQuery α) α where
  filter predicate := LazyQuery.push (.filter predicate)
  order chain := LazyQuery.push (.order chain)
  skip count := LazyQuery.push (.skip count)
  take count := LazyQuery.push (.take count)
  hasStableOrder _ := false

end TypedQuery
