import TypedQuery.Proofs.Accessor.Resolution
import TypedQuery.Proofs.Arguments.Steps
import TypedQuery.Proofs.Order.Preorder
import TypedQuery.Proofs.Order.StableSort

/-! Arguments applied to a list in memory. The result is told stage by stage: which items are kept,
how they are arranged, which page is taken, and which stage is the first to fail.
-/

namespace TypedQuery

-----------------------------------------------------------------------------------------
-- The stages
-----------------------------------------------------------------------------------------

section Stages

variable {α : Type}

/-- The items that a condition keeps; without a condition these are all of them. -/
def keptBy (condition : Option (Predicate α)) (items : List α) : List α :=
  match condition with
  | none => items
  | some predicate => items.filter predicate.test

/-- An arrangement in the order of a chain; without a chain items stay as they are. -/
def Arranged (chain : Option (OrderChain α)) (before after : List α) : Prop :=
  match chain with
  | none => after = before
  | some chain => StablySorted chain.compare before after

/-- The page that arguments take of a list. -/
def Arguments.page (arguments : Arguments) (items : List α) : List α :=
  let rest :=
    match arguments.skip with
    | none => items
    | some count => items.drop (min count.toNat items.length)
  match arguments.take with
  | none => rest
  | some count => rest.take count.toNat

end Stages

namespace Arguments

section Selection

variable (schema : Schema) (owner : schema.Ty) (arguments : Arguments)
  (hooks : Hooks (schema.Item owner)) (options : ArgumentOptions)

/-- The condition that the identifiers set: that the one key property is among them. Without
identifiers, and without a key property, they set none. -/
inductive Identified : Option (Predicate (schema.Item owner)) → Prop where
  | unasked (absent : arguments.ids = none) : Identified none
  | keyless {ids : List String} (asked : arguments.ids = some ids)
      (keyless : options.keyNames = [])
      : Identified none
  | single {ids : List String} {key : String} {predicate : Predicate (schema.Item owner)}
      (asked : arguments.ids = some ids) (single : options.keyNames = [key])
      (compiles
        : Clause.compile schema owner ⟨key, .isIn, ids.map some, false⟩ = .ok predicate)
      : Identified (some predicate)

/-- The condition that the where tree sets, if there is a tree. -/
inductive Filtered : Option (Predicate (schema.Item owner)) → Prop where
  | unasked (absent : arguments.nodes = none) : Filtered none
  | asked {nodes : List Node} {predicate : Predicate (schema.Item owner)}
      (asked : arguments.nodes = some nodes)
      (compiles : (Where.compile schema owner hooks nodes).outcome = .ok predicate)
      : Filtered (some predicate)

/-- The error of the first stage that fails. -/
inductive Refused : QueryError → Prop where
  | compositeKey {ids : List String} (asked : arguments.ids = some ids)
      (several : 2 ≤ options.keyNames.length)
      : Refused (.configuration "ids" (.compositeKey options.keyNames.length))
  | ids {ids : List String} {key : String} {error : QueryError}
      (asked : arguments.ids = some ids) (single : options.keyNames = [key])
      (fails
        : Clause.compile schema owner ⟨key, .isIn, ids.map some, false⟩ = .error error)
      : Refused error
  | nodes {identified : Option (Predicate (schema.Item owner))} {nodes : List Node}
      {error : QueryError}
      (identifies : arguments.Identified schema owner options identified)
      (asked : arguments.nodes = some nodes)
      (fails : (Where.compile schema owner hooks nodes).outcome = .error error)
      : Refused error
  | order {identified filtered : Option (Predicate (schema.Item owner))} {error : QueryError}
      (identifies : arguments.Identified schema owner options identified)
      (filters : arguments.Filtered schema owner hooks filtered)
      (asked : options.applyOrder = true)
      (fails : (Order.compile schema owner hooks arguments.orderBy).outcome = .error error)
      : Refused error

/-- What is left of items: those that the identifiers and then the where tree keep, and of these,
if orders apply, the page of their arrangement. -/
inductive Selected (items : List (schema.Item owner)) : List (schema.Item owner) → Prop where
  | kept {identified filtered : Option (Predicate (schema.Item owner))}
      (identifies : arguments.Identified schema owner options identified)
      (filters : arguments.Filtered schema owner hooks filtered)
      (unasked : options.applyOrder = false)
      : Selected items (keptBy filtered (keptBy identified items))
  | paged {identified filtered : Option (Predicate (schema.Item owner))}
      {chain : Option (OrderChain (schema.Item owner))} {arranged : List (schema.Item owner)}
      (identifies : arguments.Identified schema owner options identified)
      (filters : arguments.Filtered schema owner hooks filtered)
      (asked : options.applyOrder = true)
      (orders : (Order.compile schema owner hooks arguments.orderBy).outcome = .ok chain)
      (arranges : Arranged chain (keptBy filtered (keptBy identified items)) arranged)
      : Selected items (arguments.page arranged)

end Selection

-----------------------------------------------------------------------------------------
-- Conditions
-----------------------------------------------------------------------------------------

section Conditions

variable {schema : Schema} {owner : schema.Ty} {arguments : Arguments}
  {hooks : Hooks (schema.Item owner)} {options : ArgumentOptions}

theorem idCondition_eq_ok {identified : Option (Predicate (schema.Item owner))}
    : arguments.idCondition schema owner options = .ok identified
      ↔ arguments.Identified schema owner options identified := by
  constructor
  · intro succeeds
    rcases asked : arguments.ids with _ | ids
    · rw [idCondition, asked] at succeeds
      cases succeeds
      exact .unasked asked
    · rcases keys : options.keyNames with _ | ⟨key, _ | ⟨second, others⟩⟩
      · rw [idCondition, asked, keys] at succeeds
        cases succeeds
        exact .keyless asked keys
      · rw [idCondition, asked, keys] at succeeds
        obtain ⟨predicate, compiles, rfl⟩ := map_eq_ok.mp succeeds
        exact .single asked keys compiles
      · rw [idCondition, asked, keys] at succeeds
        cases succeeds
  · intro identifies
    cases identifies with
    | unasked absent => rw [idCondition, absent]
    | keyless asked keyless => rw [idCondition, asked, keyless]
    | single asked single compiles =>
        simp only [idCondition, asked, single, compiles, Except.map]

theorem whereCondition_eq_ok {filtered : Option (Predicate (schema.Item owner))}
    : arguments.whereCondition schema owner hooks = .ok filtered
      ↔ arguments.Filtered schema owner hooks filtered := by
  constructor
  · intro succeeds
    rcases asked : arguments.nodes with _ | nodes
    · rw [whereCondition, asked] at succeeds
      cases succeeds
      exact .unasked asked
    · rw [whereCondition, asked] at succeeds
      obtain ⟨predicate, compiles, rfl⟩ := map_eq_ok.mp succeeds
      exact .asked asked compiles
  · intro filters
    cases filters with
    | unasked absent => rw [whereCondition, absent]
    | asked asked compiles => simp only [whereCondition, asked, compiles, Except.map]

end Conditions

-----------------------------------------------------------------------------------------
-- Failing
-----------------------------------------------------------------------------------------

section Failing

variable {schema : Schema} {owner : schema.Ty} {arguments : Arguments}
  {hooks : Hooks (schema.Item owner)} {options : ArgumentOptions} {error : QueryError}

/-- The identifiers fail if they are to be found in several key properties, or in one that they do
not go with. -/
theorem idCondition_eq_error
    : arguments.idCondition schema owner options = .error error
      ↔ ∃ ids, arguments.ids = some ids
          ∧ (2 ≤ options.keyNames.length
              ∧ error = .configuration "ids" (.compositeKey options.keyNames.length)
            ∨ ∃ key, options.keyNames = [key]
                ∧ Clause.compile schema owner ⟨key, .isIn, ids.map some, false⟩
                  = .error error) := by
  rcases asked : arguments.ids with _ | ids
  · simp [idCondition, asked]
  · rcases keys : options.keyNames with _ | ⟨key, _ | ⟨second, others⟩⟩
    · simp [idCondition, asked, keys]
    · simp [idCondition, asked, keys, map_eq_error]
    · simp [idCondition, asked, keys, eq_comm]

theorem whereCondition_eq_error
    : arguments.whereCondition schema owner hooks = .error error
      ↔ ∃ nodes, arguments.nodes = some nodes
          ∧ (Where.compile schema owner hooks nodes).outcome = .error error := by
  rcases asked : arguments.nodes with _ | nodes
  · simp [whereCondition, asked]
  · simp [whereCondition, asked, map_eq_error]

/-- The steps of arguments that apply fail with the error of the first stage that does. -/
theorem steps_eq_error (applied : options.omitted = false)
    : arguments.steps schema owner hooks options = .error error
      ↔ arguments.Refused schema owner hooks options error := by
  unfold steps
  rw [if_neg (by simp [applied])]
  constructor
  · intro failed
    rcases bind_eq_error.mp failed with failed | ⟨identified, identifies, failed⟩
    · obtain ⟨ids, asked, ⟨several, rfl⟩ | ⟨key, single, fails⟩⟩ :=
        idCondition_eq_error.mp failed
      · exact .compositeKey asked several
      · exact .ids asked single fails
    · rcases bind_eq_error.mp failed with failed | ⟨filtered, filters, failed⟩
      · obtain ⟨nodes, asked, fails⟩ := whereCondition_eq_error.mp failed
        exact .nodes (idCondition_eq_ok.mp identifies) asked fails
      · split at failed
        · next asked =>
          rcases bind_eq_error.mp failed with fails | ⟨chain, -, failed⟩
          · exact .order (idCondition_eq_ok.mp identifies) (whereCondition_eq_ok.mp filters) asked
              fails
          · cases failed
        · cases failed
  · intro refused
    cases refused with
    | compositeKey asked several =>
        rw [idCondition_eq_error.mpr ⟨_, asked, .inl ⟨several, rfl⟩⟩, error_bind]
    | ids asked single fails =>
        rw [idCondition_eq_error.mpr ⟨_, asked, .inr ⟨_, single, fails⟩⟩, error_bind]
    | nodes identifies asked fails =>
        rw [idCondition_eq_ok.mpr identifies, ok_bind,
          whereCondition_eq_error.mpr ⟨_, asked, fails⟩, error_bind]
    | order identifies filters asked fails =>
        rw [idCondition_eq_ok.mpr identifies, ok_bind, whereCondition_eq_ok.mpr filters, ok_bind,
          if_pos asked, orderChain, fails, error_bind]

end Failing

-----------------------------------------------------------------------------------------
-- Succeeding
-----------------------------------------------------------------------------------------

section Succeeding

variable {α : Type}

theorem items_runSteps_filter (condition : Option (Predicate α)) (memory : InMemory α)
    : (runSteps (condition.toList.map .filter) memory).items = keptBy condition memory.items := by
  cases condition <;> rfl

/-- Steps in memory put the items in order and take the page. -/
theorem items_runSteps_pageSteps (arguments : Arguments) (chain : Option (OrderChain α))
    (memory : InMemory α)
    : (runSteps (arguments.pageSteps chain) memory).items
      = arguments.page (chain.elim memory.items (OrderChain.sort · memory.items)) := by
  -- Skipping more items than there are skips all of them.
  have skipped (count : Nat) (items : List α)
      : items.drop (min count items.length) = items.drop count :=
    List.drop_eq_drop_iff.mpr (by simp)
  unfold pageSteps page
  cases chain <;> cases arguments.skip <;> cases arguments.take <;> simp only [skipped] <;> rfl

/-- Items are arranged in one way only if the order is a total preorder, the way they are sorted. -/
theorem arranged_iff {chain : Option (OrderChain α)} {before after : List α}
    (preorders : ∀ sorting, chain = some sorting → Std.TransCmp sorting.compare)
    : Arranged chain before after ↔ after = chain.elim before (OrderChain.sort · before) := by
  cases chain with
  | none => rfl
  | some sorting =>
      have := preorders sorting rfl
      exact sorting.stablySorted_iff

variable {schema : Schema} {owner : schema.Ty} {arguments : Arguments}
  {hooks : Hooks (schema.Item owner)} {options : ArgumentOptions}
  {items result : List (schema.Item owner)}

/-- In memory every page is taken, so what arguments amount to is what their steps do. -/
theorem applyToList_eq_steps
    : (applyToList schema owner arguments hooks options items).outcome
      = do
          let steps ← arguments.steps schema owner hooks options
          return (runSteps steps (InMemory.mk items)).items := by
  have stable : QuerySource.hasStableOrder (InMemory.mk items) = true := rfl
  simp only [applyToList, Traced.outcome_bind, apply_outcome, stable, if_true, refusePaging,
    bind_assoc, ok_bind, pure_bind, Traced.outcome_pure]
  rfl

/-- What the steps of arguments that apply leave of items in memory. Only if items are to be put in
an order does it matter which one. -/
theorem exists_planned_iff_selected
    (preorders
      : options.applyOrder = true →
          ∀ chain, (Order.compile schema owner hooks arguments.orderBy).outcome = .ok (some chain)
            → Std.TransCmp chain.compare)
    : (∃ steps, arguments.Planned schema owner hooks options steps
        ∧ (runSteps steps (InMemory.mk items)).items = result)
      ↔ arguments.Selected schema owner hooks options items result := by
  constructor
  · rintro ⟨steps, planned, rfl⟩
    cases planned with
    | kept identifies filters unasked =>
        rw [runSteps_append, items_runSteps_filter, items_runSteps_filter]
        exact .kept (idCondition_eq_ok.mp identifies) (whereCondition_eq_ok.mp filters) unasked
    | paged identifies filters asked orders =>
        rw [runSteps_append, items_runSteps_pageSteps, runSteps_append, items_runSteps_filter,
          items_runSteps_filter]
        refine .paged (idCondition_eq_ok.mp identifies) (whereCondition_eq_ok.mp filters) asked
          orders ((arranged_iff ?_).mpr rfl)
        rintro sorting rfl
        exact preorders asked sorting orders
  · intro selected
    cases selected with
    | kept identifies filters unasked =>
        refine ⟨_, .kept (idCondition_eq_ok.mpr identifies) (whereCondition_eq_ok.mpr filters)
          unasked, ?_⟩
        rw [runSteps_append, items_runSteps_filter, items_runSteps_filter]
    | paged identifies filters asked orders arranges =>
        refine ⟨_, .paged (idCondition_eq_ok.mpr identifies) (whereCondition_eq_ok.mpr filters)
          asked orders, ?_⟩
        rw [runSteps_append, items_runSteps_pageSteps, runSteps_append, items_runSteps_filter,
          items_runSteps_filter, (arranged_iff ?_).mp arranges]
        rintro sorting rfl
        exact preorders asked sorting orders

/-- A where tree that is present but empty is a condition that no item satisfies. -/
theorem keptBy_of_no_nodes (asked : arguments.nodes = some [])
    {filtered : Option (Predicate (schema.Item owner))}
    (filters : arguments.whereCondition schema owner hooks = .ok filtered)
    : keptBy filtered items = [] := by
  rw [whereCondition, asked] at filters
  cases filters
  exact List.filter_eq_nil_iff.mpr fun _ _ => Bool.false_ne_true

/-- Nothing is left of items that no condition keeps, by the stages after it. -/
theorem items_eq_nil_of_no_nodes (asked : arguments.nodes = some [])
    {steps : List (QueryStep (schema.Item owner))}
    (planned : arguments.Planned schema owner hooks options steps)
    : (runSteps steps (InMemory.mk items)).items = [] := by
  cases planned with
  | kept identifies filters unasked =>
      rw [runSteps_append, items_runSteps_filter, keptBy_of_no_nodes asked filters]
  | @paged _ _ chain identifies filters _ orders =>
      rw [runSteps_append, items_runSteps_pageSteps, runSteps_append, items_runSteps_filter,
        keptBy_of_no_nodes asked filters]
      unfold page
      cases chain <;> cases arguments.skip <;> cases arguments.take <;>
        simp [OrderChain.sort]

end Succeeding

-----------------------------------------------------------------------------------------
-- The whole
-----------------------------------------------------------------------------------------

/-- Arguments left out leave a list as it is. Those that apply fail with the error of the first
stage that fails, and otherwise give what their stages select, which is nothing at all for a where
tree that is present but empty. If an order is asked for, that takes its being a total preorder, and
then there is one way only to arrange any items in it. -/
theorem applyToList_outcome_iff {schema : Schema} {owner : schema.Ty} (arguments : Arguments)
    (hooks : Hooks (schema.Item owner)) (options : ArgumentOptions)
    (items : List (schema.Item owner))
    : (options.omitted = true
        → (applyToList schema owner arguments hooks options items).outcome = .ok items)
      ∧ (options.omitted = false
          → (∀ error,
              (applyToList schema owner arguments hooks options items).outcome = .error error
              ↔ arguments.Refused schema owner hooks options error)
            ∧ (arguments.nodes = some []
                → ∀ result,
                    (applyToList schema owner arguments hooks options items).outcome = .ok result
                    → result = [])
            ∧ ((options.applyOrder = true →
                  ∀ chain,
                    (Order.compile schema owner hooks arguments.orderBy).outcome = .ok (some chain)
                    → Std.TransCmp chain.compare)
                → ∀ result,
                    (applyToList schema owner arguments hooks options items).outcome = .ok result
                    ↔ arguments.Selected schema owner hooks options items result))
      ∧ ∀ chain,
          (Order.compile schema owner hooks arguments.orderBy).outcome = .ok (some chain)
          → Std.TransCmp chain.compare
          → ∀ before, ∃! after, Arranged (some chain) before after := by
  rw [applyToList_eq_steps]
  refine ⟨fun omitted => ?_, fun applied =>
    ⟨fun error => ?_, fun empty result succeeds => ?_, fun preorders result => ?_⟩,
    fun chain _ preorder before => ?_⟩
  · rw [steps, if_pos omitted]
    rfl
  · rw [bind_eq_error, steps_eq_error applied]
    refine ⟨fun failed => failed.resolve_right ?_, .inl⟩
    rintro ⟨steps, -, impossible⟩
    cases impossible
  · obtain ⟨steps, planned, same⟩ := bind_eq_ok.mp succeeds
    cases same
    exact items_eq_nil_of_no_nodes empty ((steps_eq_ok applied).mp planned)
  · rw [bind_eq_ok, ← exists_planned_iff_selected preorders]
    refine exists_congr fun steps => and_congr (steps_eq_ok applied) ?_
    exact ⟨Except.ok.inj, congrArg _⟩
  · exact ⟨chain.sort before, chain.sort_stablySorted before, fun _ stably =>
      chain.stablySorted_iff.mp stably⟩

/-- The orders of a shop, the largest first, as sent by a client. -/
def largestOrders : Arguments where
  ids := some ["7", "8", "9"]
  nodes := some [Node.leaf "customer" .equal ["Ann"]]
  orderBy := [⟨"size", true⟩]
  skip := some 1
  take := some 5

/-- Orders compare by the number of their lines, whatever property is named. -/
def bySize : Hooks Shop.Order where
  sorter := some fun key _ =>
    .ok (some ⟨"size", key.direction, compareOn fun order : Shop.Order => order.lines.length⟩)

/-- Every order comes after every other one, and after itself. -/
def alwaysAfter : Hooks Shop.Order where
  sorter := some fun key _ => .ok (some ⟨"size", key.direction, fun _ _ => .gt⟩)

/-- The only other order of the customer is the second largest. Where no order applies, it may be
one that cannot be arranged in, and both are kept. -/
theorem applyToList_outcome_iff_largestOrders
    : (∃ result,
        (applyToList Shop.schema .order largestOrders bySize ⟨["number"], true, false⟩
            (Shop.order.followUps ++ [Shop.order])).outcome = .ok result
        ∧ largestOrders.Selected Shop.schema .order bySize ⟨["number"], true, false⟩
            (Shop.order.followUps ++ [Shop.order]) result
        ∧ result.map Shop.Order.number = [8])
      ∧ ∃ result,
          (applyToList Shop.schema .order largestOrders alwaysAfter ⟨["number"], false, false⟩
              (Shop.order.followUps ++ [Shop.order])).outcome = .ok result
          ∧ largestOrders.Selected Shop.schema .order alwaysAfter ⟨["number"], false, false⟩
              (Shop.order.followUps ++ [Shop.order]) result
          ∧ result.map Shop.Order.number = [8, 7] := by
  obtain ⟨second, orders, numbers⟩ := map_eq_ok.mp (by decide +kernel
    : (applyToList Shop.schema .order largestOrders bySize ⟨["number"], true, false⟩
        (Shop.order.followUps ++ [Shop.order])).outcome.map (List.map Shop.Order.number)
      = .ok [8])
  obtain ⟨both, keeps, kept⟩ := map_eq_ok.mp (by decide +kernel
    : (applyToList Shop.schema .order largestOrders alwaysAfter ⟨["number"], false, false⟩
        (Shop.order.followUps ++ [Shop.order])).outcome.map (List.map Shop.Order.number)
      = .ok [8, 7])
  obtain ⟨-, -, ordered⟩ := (@applyToList_outcome_iff Shop.schema .order largestOrders bySize
    ⟨["number"], true, false⟩ (Shop.order.followUps ++ [Shop.order])).2.1 rfl
  obtain ⟨-, -, unordered⟩ := (@applyToList_outcome_iff Shop.schema .order largestOrders alwaysAfter
    ⟨["number"], false, false⟩ (Shop.order.followUps ++ [Shop.order])).2.1 rfl
  refine ⟨⟨second, orders, (ordered ?_ second).mp orders, numbers⟩,
    both, keeps, (unordered ?_ both).mp keeps, kept⟩
  · intro _ chain made
    cases made
    refine OrderChain.transCmp_compareBy fun key among => ?_
    rw [List.mem_singleton.mp among]
    exact (inferInstance : Std.TransCmp (compareOn fun order : Shop.Order => order.lines.length))
  · exact fun impossible => absurd impossible (by decide)

end Arguments

end TypedQuery
