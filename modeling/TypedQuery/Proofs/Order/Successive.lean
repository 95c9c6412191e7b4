import Mathlib.Data.List.Basic
import Mathlib.Data.List.Induction
import TypedQuery.Proofs.Order.Preorder
import TypedQuery.Proofs.Order.StableSort

/-! Sorting again and sorting a part. A list that is sorted by one chain and then by another one is sorted by
the keys of the second chain and, where these tie, by those of the first. And the part of a sorted list that
a condition keeps is the same part of the list, sorted.
-/

namespace TypedQuery

variable {α : Type}

-----------------------------------------------------------------------------------------
-- Stably sorted arrangements
-----------------------------------------------------------------------------------------

section Arrangements

variable {compare minor major : α → α → Ordering} {before middle after : List α}

/-- What a condition keeps of a stably sorted arrangement is stably sorted. -/
theorem StablySorted.filter (stably : StablySorted compare before after) (keeps : α → Bool)
    : StablySorted compare (before.filter keeps) (after.filter keeps) where
  perm := stably.perm.filter keeps
  sorted := stably.sorted.filter keeps
  stable := by
    intro item
    rw [List.filter_comm, stably.stable item, List.filter_comm]

/-- Items that tie are related in their order if each class of items that tie is. -/
theorem pairwise_of_classes [Std.ReflCmp compare] {related : α → α → Prop} {items : List α}
    (classes
      : ∀ item, (items.filter fun other => compare item other = .eq).Pairwise related)
    : items.Pairwise fun left right => compare left right = .eq → related left right := by
  rw [List.pairwise_iff_forall_sublist]
  intro left right both tie
  have self : compare left left = .eq := Std.ReflCmp.compare_self
  have tied := both.filter fun other => decide (compare left other = .eq)
  simp only [List.filter_cons, self, tie, decide_true, if_true, List.filter_nil] at tied
  exact List.pairwise_iff_forall_sublist.mp (classes left) tied

/-- Arranging again keeps, where items tie, the order that they were brought into before. -/
theorem StablySorted.again [Std.ReflCmp major] (first : StablySorted minor before middle)
    (second : StablySorted major middle after)
    : StablySorted (compareLex major minor) before after where
  perm := second.perm.trans first.perm
  sorted := by
    have ties
        : after.Pairwise fun left right => major left right = .eq → minor left right ≠ .gt := by
      refine pairwise_of_classes fun item => ?_
      rw [second.stable item]
      exact first.sorted.filter _
    refine (second.sorted.and ties).imp fun {left right} both => ?_
    obtain ⟨notGreater, broken⟩ := both
    cases order : major left right with
    | lt => simp [compareLex, order]
    | eq => simpa [compareLex, order] using broken order
    | gt => exact absurd order notGreater
  stable := by
    intro item
    -- A class of both comparisons is what the one class leaves of the other, in either order.
    have split (items : List α)
        : items.filter (fun other => compareLex major minor item other = .eq)
          = (items.filter fun other => minor item other = .eq).filter fun other =>
              major item other = .eq := by
      simp only [compareLex_eq_eq, List.filter_filter, Bool.decide_and]
    rw [split, List.filter_comm, second.stable item, List.filter_comm, first.stable item, ← split]

end Arrangements

-----------------------------------------------------------------------------------------
-- Chains
-----------------------------------------------------------------------------------------

namespace OrderChain

/-- The first keys decide, and where they do not the others do, by induction on the first keys. -/
theorem compareBy_append (keys others : List (SortKey α))
    : compareBy (keys ++ others) = compareLex (compareBy keys) (compareBy others) := by
  induction keys with
  | nil => rfl
  | cons key rest ih =>
      funext left right
      rw [List.cons_append, compareBy_cons, compareBy_cons, ih]
      simp only [compareLex, Ordering.then_assoc]

/-- The keys of several chains make a total preorder if those of each chain do, by induction on the
chains. -/
theorem transCmp_flatMap_keys {chains : List (OrderChain α)}
    (preorders : ∀ chain ∈ chains, Std.TransCmp chain.compare)
    : Std.TransCmp (compareBy (chains.flatMap OrderChain.keys)) := by
  induction chains with
  | nil => exact transCmp_compareBy (by simp)
  | cons chain rest ih =>
      obtain ⟨first, others⟩ := List.forall_mem_cons.mp preorders
      have : Std.TransCmp (compareBy chain.keys) := first
      have := ih others
      rw [List.flatMap_cons, compareBy_append]
      infer_instance

/-- Sorting leaves a list that is sorted as it is. -/
theorem sort_eq_self (chain : OrderChain α) [Std.TransCmp chain.compare] {items : List α}
    (sorted : items.Pairwise fun left right => chain.compare left right ≠ .gt)
    : chain.sort items = items :=
  (chain.stablySorted_iff.mp ⟨.rfl, sorted, fun _ => rfl⟩).symm

/-- What is kept of a list is sorted in the order that it has in the sorted list. -/
theorem sort_filter (chain : OrderChain α) [Std.TransCmp chain.compare] (keeps : α → Bool)
    (items : List α)
    : chain.sort (items.filter keeps) = (chain.sort items).filter keeps :=
  (chain.stablySorted_iff.mp ((chain.sort_stablySorted items).filter keeps)).symm

/-- Sorting twice by the same chain is sorting once. -/
theorem sort_sort_self (chain : OrderChain α) [Std.TransCmp chain.compare] (items : List α)
    : chain.sort (chain.sort items) = chain.sort items :=
  chain.sort_eq_self (chain.sort_stablySorted items).sorted

/-- Sorting by one chain and then by another is sorting by the keys of both, those of the second one
first. -/
theorem sort_sort (first second : OrderChain α) [Std.TransCmp first.compare]
    [Std.TransCmp second.compare] (items : List α)
    : second.sort (first.sort items) = sort ⟨second.keys ++ first.keys⟩ items := by
  have compares : compare ⟨second.keys ++ first.keys⟩ = compareLex second.compare first.compare :=
    compareBy_append second.keys first.keys
  have preorder : Std.TransCmp (compare ⟨second.keys ++ first.keys⟩) := by
    rw [compares]
    infer_instance
  refine (stablySorted_iff _).mp ?_
  rw [compares]
  exact (first.sort_stablySorted items).again (second.sort_stablySorted (first.sort items))

/-- Sorting by several chains, one after the other, is sorting by the keys of all of them, those of the last
one first. By induction on the chains from the last one. -/
theorem foldl_sort {chains : List (OrderChain α)}
    (preorders : ∀ chain ∈ chains, Std.TransCmp chain.compare) (items : List α)
    : chains.foldl (fun items chain => chain.sort items) items
      = sort ⟨chains.reverse.flatMap OrderChain.keys⟩ items := by
  induction chains using List.reverseRecOn with
  | nil =>
      have unordered : Std.TransCmp (compare (⟨[]⟩ : OrderChain α)) := transCmp_compareBy (by simp)
      exact (sort_eq_self ⟨[]⟩ (List.pairwise_of_forall fun _ _ => nofun)).symm
  | append_singleton done last ih =>
      have earlier (chain : OrderChain α) (member : chain ∈ done) : Std.TransCmp chain.compare :=
        preorders chain (List.mem_append_left _ member)
      have : Std.TransCmp last.compare := preorders last (by simp)
      have : Std.TransCmp (compare ⟨done.reverse.flatMap OrderChain.keys⟩) :=
        transCmp_flatMap_keys fun chain member => earlier chain (List.mem_reverse.mp member)
      rw [List.foldl_append, ih earlier, List.foldl_cons, List.foldl_nil, sort_sort,
        List.reverse_append, List.reverse_singleton, List.singleton_append, List.flatMap_cons]

end OrderChain

end TypedQuery
