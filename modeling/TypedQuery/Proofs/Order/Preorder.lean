import TypedQuery.Order

/-! Orders of chains. A chain compares by its keys, one after the other, so it is a total preorder
as soon as the comparison of every key is one.
-/

namespace TypedQuery

variable {α : Type}

/-- A key compares in its direction what it compares in ascending direction the other way round. -/
instance SortKey.transCmp (key : SortKey α) [Std.TransCmp key.ascending]
    : Std.TransCmp key.compare := by
  obtain ⟨label, direction, ascending⟩ := key
  cases direction with
  | ascending => exact (inferInstance : Std.TransCmp ascending)
  | descending =>
      have turned
          : SortKey.compare ⟨label, .descending, ascending⟩
            = fun left right => ascending right left := by
        funext left right
        exact Std.OrientedCmp.eq_swap.symm
      rw [turned]
      exact Std.TransCmp.opposite

namespace OrderChain

/-- The first key decides, and where it does not the others do. -/
theorem compareBy_cons (key : SortKey α) (rest : List (SortKey α))
    : compareBy (key :: rest) = compareLex key.compare (compareBy rest) := by
  funext left right
  rw [compareBy, compareLex]
  cases key.compare left right <;> rfl

/-- Comparing by keys is a total preorder if each key gives one, by induction on the keys. -/
theorem transCmp_compareBy {keys : List (SortKey α)}
    (preorders : ∀ key ∈ keys, Std.TransCmp key.ascending)
    : Std.TransCmp (compareBy keys) := by
  induction keys with
  | nil => exact { eq_swap := rfl, isLE_trans := fun _ _ => rfl }
  | cons key rest ih =>
      have first : Std.TransCmp key.ascending := preorders key (by simp)
      have others : Std.TransCmp (compareBy rest) :=
        ih fun key later => preorders key (by simp [later])
      rw [compareBy_cons]
      infer_instance

end OrderChain

end TypedQuery
