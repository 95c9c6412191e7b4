import TypedQuery.Proofs.Arguments.Steps

/-! Places of items. If the steps of a query do not tell two sequences of items apart place by place, they
leave the items at the same places of both, in the same order.
-/

namespace TypedQuery

variable {ι α : Type}

/-- Two lists have the items at the same places of two sequences. -/
structure Placed (first second : ι → α) (places : List ι) (left right : List α) : Prop where
  left_eq : left = places.map first
  right_eq : right = places.map second

/-- A chain compares any two items of a sequence as it does those at the same places of another one. -/
def OrderChain.Blind (chain : OrderChain α) (first second : ι → α) : Prop :=
  ∀ place other,
    chain.compare (first place) (first other) = chain.compare (second place) (second other)

/-- A step does not tell two sequences of items apart: it keeps an item exactly if it keeps the one at the
same place, and puts items in the order of those at the same places. -/
def QueryStep.Blind (first second : ι → α) : QueryStep α → Prop
  | .filter predicate => ∀ place, predicate.test (first place) = predicate.test (second place)
  | .order chain => chain.Blind first second
  | .skip _ | .take _ => True

variable {first second : ι → α} {places : List ι}

-----------------------------------------------------------------------------------------
-- Sorting
-----------------------------------------------------------------------------------------

namespace OrderChain

variable {chain : OrderChain α}

/-- An item is put at the same place into both lists, by induction on the places that it may pass. -/
theorem exists_placed_insertFromEnd (blind : chain.Blind first second) (place : ι) (places : List ι)
    : ∃ inserted, inserted.Perm (place :: places)
        ∧ Placed first second inserted (chain.insertFromEnd (first place) (places.map first))
            (chain.insertFromEnd (second place) (places.map second)) := by
  induction places with
  | nil => exact ⟨[place], .rfl, rfl, rfl⟩
  | cons last rest ih =>
      obtain ⟨inserted, perm, left, right⟩ := ih
      by_cases passes : chain.compare (first place) (first last) = .lt
      · have passesToo : chain.compare (second place) (second last) = .lt :=
          (blind place last).symm.trans passes
        refine ⟨last :: inserted, (perm.cons last).trans (.swap place last rest), ?_, ?_⟩
        · rw [List.map_cons, insertFromEnd, if_pos passes, left, List.map_cons]
        · rw [List.map_cons, insertFromEnd, if_pos passesToo, right, List.map_cons]
      · have staysToo : chain.compare (second place) (second last) ≠ .lt :=
          fun passesToo => passes ((blind place last).trans passesToo)
        refine ⟨place :: last :: rest, .rfl, ?_, ?_⟩
        · rw [List.map_cons, insertFromEnd, if_neg passes]
          rfl
        · rw [List.map_cons, insertFromEnd, if_neg staysToo]
          rfl

/-- Items are put at the same places one after the other, by induction on the items to come. -/
theorem exists_placed_foldl_insertFromEnd (blind : chain.Blind first second) (places sorted : List ι)
    : ∃ after, after.Perm (places ++ sorted)
        ∧ Placed first second after
            ((places.map first).foldl (fun sorted item => chain.insertFromEnd item sorted)
              (sorted.map first))
            ((places.map second).foldl (fun sorted item => chain.insertFromEnd item sorted)
              (sorted.map second)) := by
  induction places generalizing sorted with
  | nil => exact ⟨sorted, .rfl, rfl, rfl⟩
  | cons place rest ih =>
      obtain ⟨inserted, perm, left, right⟩ := exists_placed_insertFromEnd blind place sorted
      obtain ⟨after, permAfter, placed⟩ := ih inserted
      rw [List.map_cons, List.map_cons, List.foldl_cons, List.foldl_cons, left, right]
      have inserting : (rest ++ inserted).Perm (place :: rest ++ sorted) :=
        (perm.append_left rest).trans List.perm_middle
      exact ⟨after, permAfter.trans inserting, placed⟩

/-- Both lists are sorted in the same way. -/
theorem exists_placed_sort (blind : chain.Blind first second) (places : List ι)
    : ∃ sorted, sorted.Perm places
        ∧ Placed first second sorted (chain.sort (places.map first))
            (chain.sort (places.map second)) := by
  obtain ⟨after, perm, left, right⟩ := exists_placed_foldl_insertFromEnd blind places []
  have permSorted : after.reverse.Perm places :=
    (List.reverse_perm after).trans (by simpa using perm)
  refine ⟨after.reverse, permSorted, ?_, ?_⟩
  · rw [List.map_reverse, ← left]
    rfl
  · rw [List.map_reverse, ← right]
    rfl

end OrderChain

-----------------------------------------------------------------------------------------
-- Steps and runs
-----------------------------------------------------------------------------------------

/-- A step that does not tell the items apart leaves those at the same places, and none twice. -/
theorem QueryStep.Blind.exists_placed {step : QueryStep α} (blind : step.Blind first second)
    (places : List ι) (nodup : places.Nodup)
    : ∃ kept, kept.Nodup
        ∧ Placed first second kept (step.on (InMemory.mk (places.map first))).items
            (step.on (InMemory.mk (places.map second))).items := by
  cases step with
  | filter predicate =>
      refine ⟨places.filter (fun place => predicate.test (first place)), nodup.filter _, ?_, ?_⟩
      · exact List.filter_map
      · have same : (fun place => predicate.test (first place)) = predicate.test ∘ second :=
          funext blind
        rw [same]
        exact List.filter_map
  | order chain =>
      obtain ⟨sorted, perm, placed⟩ := OrderChain.exists_placed_sort blind places
      exact ⟨sorted, perm.nodup_iff.mpr nodup, placed⟩
  | skip count =>
      refine ⟨places.drop count.toNat, nodup.sublist (List.drop_sublist _ _), ?_, ?_⟩
      · exact List.map_drop.symm
      · exact List.map_drop.symm
  | take count =>
      refine ⟨places.take count.toNat, nodup.sublist (List.take_sublist _ _), ?_, ?_⟩
      · exact List.map_take.symm
      · exact List.map_take.symm

/-- Steps that do not tell the items apart leave those at the same places, by induction on the steps. -/
theorem exists_placed_runSteps {steps : List (QueryStep α)}
    (blind : ∀ step ∈ steps, step.Blind first second) (places : List ι) (nodup : places.Nodup)
    : ∃ kept, kept.Nodup
        ∧ Placed first second kept (runSteps steps (InMemory.mk (places.map first))).items
            (runSteps steps (InMemory.mk (places.map second))).items := by
  induction steps generalizing places with
  | nil => exact ⟨places, nodup, rfl, rfl⟩
  | cons step rest ih =>
      obtain ⟨blindStep, blindRest⟩ := List.forall_mem_cons.mp blind
      obtain ⟨kept, nodupKept, left, right⟩ := blindStep.exists_placed places nodup
      have leaves {items : List ι} {get : ι → α} {memory : InMemory α}
          (same : memory.items = items.map get)
          : memory = InMemory.mk (items.map get) := by
        rw [← same]
      rw [runSteps_cons, runSteps_cons, leaves left, leaves right]
      exact ih blindRest kept nodupKept

end TypedQuery
