import Mathlib.Logic.Relation
import TypedQuery.Proofs.Accessor.Resolution
import TypedQuery.Proofs.Order.Successive
import TypedQuery.Proofs.Source.Lockstep

/-! Steps of a query that can be merged or moved. Orders that follow each other are one order, and a filter
can be taken before or after the order next to it. So a store may filter first and sort once, whatever the
query says, if the orders asked for are total preorders.
-/

namespace TypedQuery

variable {α : Type}

-----------------------------------------------------------------------------------------
-- Orders
-----------------------------------------------------------------------------------------

/-- Several orders in memory sort by their chains, one after the other. -/
theorem runSteps_orders (chains : List (OrderChain α)) (memory : InMemory α)
    : runSteps (chains.map .order) memory
      = ⟨chains.foldl (fun items chain => chain.sort items) memory.items⟩ := by
  induction chains generalizing memory with
  | nil => rfl
  | cons chain rest ih =>
      rw [List.map_cons, runSteps_cons, ih]
      rfl

/-- Two orders of items in memory are one order by the keys of the second and then those of the first, and the
same order twice is that order once. So is a run of any number of orders one order by all their keys,
those of the last order first. -/
theorem order_successive (source : InMemory α)
    : (∀ first second : OrderChain α,
          Std.TransCmp first.compare → Std.TransCmp second.compare →
          (source.order first).order second = source.order ⟨second.keys ++ first.keys⟩)
      ∧ (∀ chain : OrderChain α,
          Std.TransCmp chain.compare → (source.order chain).order chain = source.order chain)
      ∧ ∀ chains : List (OrderChain α),
          (∀ chain ∈ chains, Std.TransCmp chain.compare) →
          runSteps (chains.map .order) source
            = source.order ⟨chains.reverse.flatMap OrderChain.keys⟩ := by
  refine ⟨fun first second _ _ => ?_, fun chain _ => ?_, fun chains preorders => ?_⟩
  · exact congrArg InMemory.mk (first.sort_sort second source.items)
  · exact congrArg InMemory.mk (chain.sort_sort_self source.items)
  · rw [runSteps_orders, OrderChain.foldl_sort preorders]
    rfl

/-- A chain of one key is a total preorder if its key is one. -/
theorem OrderChain.transCmp_single (label : String) (direction : Direction)
    (ascending : α → α → Ordering) [Std.TransCmp ascending]
    : Std.TransCmp (OrderChain.compare ⟨[⟨label, direction, ascending⟩]⟩) := by
  refine transCmp_compareBy fun key member => ?_
  rw [List.mem_singleton.mp member]
  infer_instance

/-- Orders by their number. -/
def byNumber : OrderChain Shop.Order :=
  ⟨[⟨"number", .ascending, compareOn Shop.Order.number⟩]⟩

/-- The orders with the most lines first. -/
def byLines : OrderChain Shop.Order :=
  ⟨[⟨"lines", .descending, compareOn fun order => order.lines.length⟩]⟩

theorem transCmp_byNumber : Std.TransCmp byNumber.compare :=
  OrderChain.transCmp_single _ _ (compareOn Shop.Order.number)

theorem transCmp_byLines : Std.TransCmp byLines.compare :=
  OrderChain.transCmp_single _ _ (compareOn fun order : Shop.Order => order.lines.length)

/-- Four orders, of which two have a line. -/
def fourOrders : List Shop.Order :=
  [⟨4, "Ann", none, [], []⟩, ⟨3, "Bob", none, [⟨"nail", some 2⟩], []⟩, ⟨1, "Ann", none, [], []⟩,
    ⟨2, "Cem", none, [⟨"hook", none⟩], []⟩]

/-- Orders with equally many lines stay by number when they are ordered by lines. -/
theorem order_successive_fourOrders
    : Std.TransCmp byNumber.compare ∧ Std.TransCmp byLines.compare
      ∧ ((InMemory.mk fourOrders).order byNumber).order byLines
        = (InMemory.mk fourOrders).order ⟨byLines.keys ++ byNumber.keys⟩
      ∧ (((InMemory.mk fourOrders).order byNumber).order byLines).items.map Shop.Order.number
        = [2, 3, 1, 4] :=
  ⟨transCmp_byNumber, transCmp_byLines,
    (order_successive ⟨fourOrders⟩).1 byNumber byLines transCmp_byNumber transCmp_byLines,
    by decide +kernel⟩

-----------------------------------------------------------------------------------------
-- Filters beside orders
-----------------------------------------------------------------------------------------

/-- The second list of steps is the first one with an order before the filter that it came after. -/
inductive QueryStep.Swapped : List (QueryStep α) → List (QueryStep α) → Prop
  | swapped (before after : List (QueryStep α)) (predicate : Predicate α) (chain : OrderChain α)
      (preorder : Std.TransCmp chain.compare)
      : Swapped (before ++ .filter predicate :: .order chain :: after)
          (before ++ .order chain :: .filter predicate :: after)

/-- The lists of steps can be made from each other by moving orders and filters past each other, in both
directions and as often as one likes. -/
def QueryStep.Rearranged : List (QueryStep α) → List (QueryStep α) → Prop :=
  Relation.EqvGen QueryStep.Swapped

/-- What is kept is put in the order that it has among all items. -/
theorem InMemory.order_filter (predicate : Predicate α) (chain : OrderChain α)
    [Std.TransCmp chain.compare] (source : InMemory α)
    : (source.filter predicate).order chain = (source.order chain).filter predicate :=
  congrArg InMemory.mk (chain.sort_filter predicate.test source.items)

theorem LazyQuery.execute_eq (steps : List (QueryStep α)) (items : List α)
    : (LazyQuery.mk steps).execute items = (runSteps steps (InMemory.mk items)).items := by
  rw [runSteps_memory]
  rfl

/-- An order and a filter that change places change nothing for the steps after them. -/
theorem QueryStep.Swapped.execute_eq {steps others : List (QueryStep α)}
    (swapped : Swapped steps others) (items : List α)
    : (LazyQuery.mk steps).execute items = (LazyQuery.mk others).execute items := by
  cases swapped with
  | swapped before after predicate chain preorder =>
      have commute (source : InMemory α)
          : (QueryStep.order chain).on ((QueryStep.filter predicate).on source)
            = (QueryStep.filter predicate).on ((QueryStep.order chain).on source) :=
        source.order_filter predicate chain
      simp only [LazyQuery.execute_eq, runSteps_append, runSteps_cons, commute]

/-- A filter of items in memory can be taken before or after an order. A query whose filters and orders are
moved past each other gives, executed on any items, the same items in the same order. By induction on the
moves. -/
theorem order_filter_commute
    : (∀ (predicate : Predicate α) (chain : OrderChain α),
          Std.TransCmp chain.compare → ∀ source : InMemory α,
            (source.filter predicate).order chain = (source.order chain).filter predicate)
      ∧ ∀ steps others : List (QueryStep α),
          QueryStep.Rearranged steps others → ∀ items,
            (LazyQuery.mk steps).execute items = (LazyQuery.mk others).execute items := by
  refine ⟨fun predicate chain _ source => source.order_filter predicate chain, ?_⟩
  intro steps others rearranged items
  induction rearranged with
  | rel steps others swapped => exact swapped.execute_eq items
  | refl steps => rfl
  | symm steps others _ ih => exact ih.symm
  | trans steps middle others _ _ first second => exact first.trans second

def ofAnn : Predicate Shop.Order :=
  .custom "Ann" fun order => order.customer == "Ann"

/-- The two largest orders of a customer, whose orders are picked out before all are sorted. -/
def largestOfAnn : List (QueryStep Shop.Order) :=
  [.filter ofAnn, .order byNumber, .order byLines, .take 2]

/-- The same, but all are sorted before the orders of the customer are picked out. -/
def ofAnnAmongLargest : List (QueryStep Shop.Order) :=
  [.order byNumber, .order byLines, .filter ofAnn, .take 2]

/-- The filter is moved past one order and then past the other. -/
theorem order_filter_commute_fourOrders
    : QueryStep.Rearranged largestOfAnn ofAnnAmongLargest
      ∧ (LazyQuery.mk largestOfAnn).execute fourOrders
        = (LazyQuery.mk ofAnnAmongLargest).execute fourOrders
      ∧ ((LazyQuery.mk largestOfAnn).execute fourOrders).map Shop.Order.number = [1, 4] := by
  have rearranged : QueryStep.Rearranged largestOfAnn ofAnnAmongLargest :=
    .trans _ _ _
      (.rel _ _ (.swapped [] [.order byLines, .take 2] ofAnn byNumber transCmp_byNumber))
      (.rel _ _ (.swapped [.order byNumber] [.take 2] ofAnn byLines transCmp_byLines))
  exact ⟨rearranged, order_filter_commute.2 _ _ rearranged fourOrders, by decide +kernel⟩

end TypedQuery
