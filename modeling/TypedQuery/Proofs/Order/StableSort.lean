import TypedQuery.Order

/-! Sorting keeps what the order leaves open. A sorted arrangement that also keeps items which
compare as equal in the order they had is unique, and sorting by a chain gives that arrangement
whenever the comparison of the chain is a total preorder.
-/

namespace TypedQuery

variable {α : Type}

/-- A rearrangement that is sorted by a comparison and keeps the items of each class of equal ones
in the order they had before. -/
structure StablySorted (compare : α → α → Ordering) (before after : List α) : Prop where
  perm : after.Perm before
  sorted : after.Pairwise (fun left right => compare left right ≠ .gt)
  stable
    : ∀ item,
        after.filter (fun other => compare item other = .eq)
        = before.filter (fun other => compare item other = .eq)

-----------------------------------------------------------------------------------------
-- The arrangement is unique
-----------------------------------------------------------------------------------------

section Uniqueness

variable {compare : α → α → Ordering} [Std.TransCmp compare]

theorem eq_of_not_gt {left right : α} (forth : compare left right ≠ .gt)
    (back : compare right left ≠ .gt)
    : compare left right = .eq := by
  cases order : compare left right with
  | eq => rfl
  | gt => exact absurd order forth
  | lt => exact absurd (Std.OrientedCmp.gt_of_lt order) back

/-- The first of sorted items comes after none of them. -/
theorem head_not_gt {first : α} {rest : List α}
    (sorted : (first :: rest).Pairwise (fun left right => compare left right ≠ .gt))
    {item : α} (member : item ∈ first :: rest)
    : compare first item ≠ .gt := by
  rcases List.mem_cons.mp member with same | later
  · have self : compare first first = .eq := Std.ReflCmp.compare_self
    rw [same, self]
    decide
  · exact (List.pairwise_cons.mp sorted).1 item later

/-- Two sorted lists with the same classes of equal items, each in the same order, are the same
list. By induction on the list: both begin with an item of the lowest class, and it is the first of
that class. -/
theorem eq_of_sorted_of_classes {left right : List α}
    (sortedLeft : left.Pairwise (fun left right => compare left right ≠ .gt))
    (sortedRight : right.Pairwise (fun left right => compare left right ≠ .gt))
    (classes
      : ∀ item,
          left.filter (fun other => compare item other = .eq)
          = right.filter (fun other => compare item other = .eq))
    : left = right := by
  have self (item : α) : compare item item = .eq := Std.ReflCmp.compare_self
  have mem_iff (item : α) : item ∈ left ↔ item ∈ right := by
    simpa [self] using congrArg (item ∈ ·) (classes item)
  induction left generalizing right with
  | nil =>
      cases right with
      | nil => rfl
      | cons head rest => simpa using mem_iff head
  | cons first others ih =>
      cases right with
      | nil => simpa using mem_iff first
      | cons head rest =>
          -- Each head comes after no item of the other list, so both belong to one class.
          have level : compare first head = .eq :=
            eq_of_not_gt (head_not_gt sortedLeft ((mem_iff head).mpr (by simp)))
              (head_not_gt sortedRight ((mem_iff first).mp (by simp)))
          have firsts := classes first
          simp only [List.filter_cons, self, level, decide_true, if_true, List.cons.injEq]
            at firsts
          obtain ⟨rfl, -⟩ := firsts
          -- The class of the heads loses its first item in both lists, the others stay whole.
          have rests (item : α)
              : others.filter (fun other => compare item other = .eq)
                = rest.filter (fun other => compare item other = .eq) := by
            have both := classes item
            simp only [List.filter_cons] at both
            split at both
            · exact (List.cons.inj both).2
            · exact both
          rw [ih (List.pairwise_cons.mp sortedLeft).2 (List.pairwise_cons.mp sortedRight).2 rests
            fun item => by simpa [self] using congrArg (item ∈ ·) (rests item)]

/-- There is at most one stably sorted arrangement. -/
theorem StablySorted.unique {before left right : List α}
    (first : StablySorted compare before left) (second : StablySorted compare before right)
    : left = right :=
  eq_of_sorted_of_classes first.sorted second.sorted fun item =>
    (first.stable item).trans (second.stable item).symm

end Uniqueness

-----------------------------------------------------------------------------------------
-- Sorting by a chain
-----------------------------------------------------------------------------------------

namespace OrderChain

variable (chain : OrderChain α)

theorem insertFromEnd_perm (item : α) (sorted : List α)
    : (chain.insertFromEnd item sorted).Perm (item :: sorted) := by
  induction sorted with
  | nil => exact .rfl
  | cons last rest ih =>
      rw [insertFromEnd]
      split
      · exact (ih.cons last).trans (.swap item last rest)
      · exact .rfl

/-- An inserted item comes before the items of its class that are there already, counted from the
end: it passes only items that come strictly after it. -/
theorem filter_insertFromEnd [Std.TransCmp chain.compare] (item other : α) (sorted : List α)
    : (chain.insertFromEnd item sorted).filter (fun member => chain.compare other member = .eq)
      = (item :: sorted).filter (fun member => chain.compare other member = .eq) := by
  induction sorted with
  | nil => rfl
  | cons last rest ih =>
      rw [insertFromEnd]
      split
      · next passes =>
        rw [List.filter_cons, ih]
        -- The item that is passed comes strictly after the whole class, so it is filtered out.
        by_cases level : chain.compare other item = .eq
        · have passed : chain.compare other last = .lt :=
            (Std.TransCmp.congr_left level).trans passes
          simp [level, passed]
        · simp [List.filter_cons, level]
      · rfl

/-- Inserting keeps items sorted from the end: what an item does not pass it does not come before,
and neither does what that does not come before. -/
theorem pairwise_insertFromEnd [Std.TransCmp chain.compare] (item : α) {sorted : List α}
    (fromEnd : sorted.Pairwise (fun later earlier => chain.compare earlier later ≠ .gt))
    : (chain.insertFromEnd item sorted).Pairwise
        (fun later earlier => chain.compare earlier later ≠ .gt) := by
  induction sorted with
  | nil => simp [insertFromEnd]
  | cons last rest ih =>
      obtain ⟨below, fromEnd⟩ := List.pairwise_cons.mp fromEnd
      rw [insertFromEnd]
      split
      · next passes =>
        refine List.pairwise_cons.mpr ⟨fun other member => ?_, ih fromEnd⟩
        rcases List.mem_cons.mp ((chain.insertFromEnd_perm item rest).mem_iff.mp member) with
          same | among
        · simp [same, passes]
        · exact below other among
      · next stays =>
        have lastLE : chain.compare last item ≠ .gt := by
          intro after
          exact stays (Std.OrientedCmp.lt_of_gt after)
        refine List.pairwise_cons.mpr
          ⟨fun other member => ?_, List.pairwise_cons.mpr ⟨below, fromEnd⟩⟩
        rcases List.mem_cons.mp member with same | among
        · rw [same]
          exact lastLE
        · simp only [ne_eq, ← Ordering.isLE_iff_ne_gt] at *
          exact Std.TransCmp.isLE_trans (below other among) lastLE

/-- Inserting items one after the other, by induction on the items still to be inserted. -/
theorem foldl_insertFromEnd_perm (items sorted : List α)
    : (items.foldl (fun sorted item => chain.insertFromEnd item sorted) sorted).Perm
        (items ++ sorted) := by
  induction items generalizing sorted with
  | nil => exact .rfl
  | cons item rest ih =>
      exact (ih _).trans (((chain.insertFromEnd_perm item sorted).append_left rest).trans
        List.perm_middle)

theorem filter_foldl_insertFromEnd [Std.TransCmp chain.compare] (other : α)
    (items sorted : List α)
    : (items.foldl (fun sorted item => chain.insertFromEnd item sorted) sorted).filter
          (fun member => chain.compare other member = .eq)
      = (items.reverse ++ sorted).filter (fun member => chain.compare other member = .eq) := by
  induction items generalizing sorted with
  | nil => rfl
  | cons item rest ih =>
      rw [List.foldl_cons, ih, List.filter_append, filter_insertFromEnd, ← List.filter_append]
      simp

theorem pairwise_foldl_insertFromEnd [Std.TransCmp chain.compare] (items : List α)
    {sorted : List α}
    (fromEnd : sorted.Pairwise (fun later earlier => chain.compare earlier later ≠ .gt))
    : (items.foldl (fun sorted item => chain.insertFromEnd item sorted) sorted).Pairwise
        (fun later earlier => chain.compare earlier later ≠ .gt) := by
  induction items generalizing sorted with
  | nil => exact fromEnd
  | cons item rest ih => exact ih (chain.pairwise_insertFromEnd item fromEnd)

/-- Sorting rearranges the items, whatever the comparison is. -/
theorem sort_perm (items : List α) : (chain.sort items).Perm items :=
  (List.reverse_perm _).trans (by simpa using chain.foldl_insertFromEnd_perm items [])

/-- Sorting by a total preorder gives the stably sorted arrangement. -/
theorem sort_stablySorted [Std.TransCmp chain.compare] (items : List α)
    : StablySorted chain.compare items (chain.sort items) where
  perm := chain.sort_perm items
  sorted := List.pairwise_reverse.mpr (chain.pairwise_foldl_insertFromEnd items .nil)
  stable := by
    intro item
    rw [sort, List.filter_reverse, filter_foldl_insertFromEnd]
    simp [List.filter_reverse]

/-- Being the stably sorted arrangement is what sorting by a total preorder means. -/
theorem stablySorted_iff [Std.TransCmp chain.compare] {items arranged : List α}
    : StablySorted chain.compare items arranged ↔ arranged = chain.sort items := by
  constructor
  · intro stably
    exact stably.unique (chain.sort_stablySorted items)
  · rintro rfl
    exact chain.sort_stablySorted items

end OrderChain

end TypedQuery
