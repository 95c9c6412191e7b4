import TypedQuery.Proofs.Arguments.Selection
import TypedQuery.Proofs.Order.ByValues
import TypedQuery.Proofs.Source.Lockstep

/-! Pages of an unordered store. A store may hand out its items in any order. If the order that is asked for
tells apart all items that are kept, there is only one way to put them in this order, and so every
page of them is the same whatever order the store had them in.
-/

namespace TypedQuery

-----------------------------------------------------------------------------------------
-- Items that are told apart
-----------------------------------------------------------------------------------------

namespace OrderChain

variable {α : Type} (chain : OrderChain α) [Std.TransCmp chain.compare]

/-- Being told apart goes both ways. -/
theorem apart_symm {left right : α} (apart : chain.compare left right ≠ .eq)
    : chain.compare right left ≠ .eq :=
  fun same => apart (Std.OrientedCmp.eq_symm same)

/-- Sorting puts items that are all told apart in strictly increasing order. -/
theorem pairwise_lt_sort {items : List α}
    (apart : items.Pairwise fun left right => chain.compare left right ≠ .eq)
    : (chain.sort items).Pairwise fun left right => chain.compare left right = .lt := by
  have sorted := (chain.sort_stablySorted items).sorted
  have stillApart := ((chain.sort_perm items).pairwise_iff chain.apart_symm).mpr apart
  refine (sorted.and stillApart).imp fun {left right} both => ?_
  obtain ⟨notGreater, notEqual⟩ := both
  cases compared : chain.compare left right with
  | lt => rfl
  | eq => exact absurd compared notEqual
  | gt => exact absurd compared notGreater

/-- Items that are all told apart are sorted into the same list, whatever order they came in: two lists in
strictly increasing order that have the same items are equal. -/
theorem sort_eq_of_perm {first second : List α} (perm : first.Perm second)
    (apart : first.Pairwise fun left right => chain.compare left right ≠ .eq)
    : chain.sort first = chain.sort second := by
  have apartSecond := (perm.pairwise_iff chain.apart_symm).mp apart
  have sorted : (chain.sort first).Perm (chain.sort second) :=
    (chain.sort_perm first).trans (perm.trans (chain.sort_perm second).symm)
  refine sorted.eq_of_pairwise ?_ (chain.pairwise_lt_sort apart) (chain.pairwise_lt_sort apartSecond)
  intro left right _ _ before after
  rw [Std.OrientedCmp.gt_of_lt before] at after
  cases after

end OrderChain

/-- A condition keeps the same of the same items. -/
theorem keptBy_perm {α : Type} (condition : Option (Predicate α)) {first second : List α}
    (perm : first.Perm second)
    : (keptBy condition first).Perm (keptBy condition second) := by
  cases condition with
  | none => exact perm
  | some predicate => exact perm.filter predicate.test

-----------------------------------------------------------------------------------------
-- Recorded pages
-----------------------------------------------------------------------------------------

namespace Arguments

variable {schema : Schema} {owner : schema.Ty} {arguments : Arguments}
  {hooks : Hooks (schema.Item owner)} {options : ArgumentOptions}
  {query : LazyQuery (schema.Item owner)}

/-- Executing a query that arguments were recorded as runs their steps in memory. -/
theorem execute_of_record
    (recorded : (record schema owner arguments hooks options).outcome = .ok query)
    : ∃ steps, arguments.steps schema owner hooks options = .ok steps
        ∧ ∀ items, query.execute items = (runSteps steps (InMemory.mk items)).items := by
  rw [record, apply_outcome] at recorded
  obtain ⟨steps, planned, recorded⟩ := bind_eq_ok.mp recorded
  obtain ⟨-, -, same⟩ := bind_eq_ok.mp recorded
  cases same
  exact ⟨steps, planned, fun items => execute_runSteps steps _ items⟩

/-- Executing arguments with an order takes their page of the sorted items that they keep. -/
theorem execute_of_record_ordered (ordered : arguments.orderBy ≠ [])
    (applied : options.omitted = false) (asked : options.applyOrder = true)
    (recorded : (record schema owner arguments hooks options).outcome = .ok query)
    : ∃ identified filtered chain,
        arguments.idCondition schema owner options = .ok identified
        ∧ arguments.whereCondition schema owner hooks = .ok filtered
        ∧ (Order.compile schema owner hooks arguments.orderBy).outcome = .ok (some chain)
        ∧ ∀ items,
            query.execute items
            = arguments.page (chain.sort (keptBy filtered (keptBy identified items))) := by
  obtain ⟨steps, succeeds, executes⟩ := execute_of_record recorded
  cases (steps_eq_ok applied).mp succeeds with
  | kept _ _ unasked => simp [asked] at unasked
  | @paged identified filtered chain identifies filters _ orders =>
      have given := isSome_of_orderChain orders
      rw [List.isEmpty_eq_false_iff.mpr ordered] at given
      obtain ⟨sorting, rfl⟩ := Option.isSome_iff_exists.mp given
      refine ⟨identified, filtered, sorting, identifies, filters, orders, fun items => ?_⟩
      rw [executes, runSteps_append, items_runSteps_pageSteps, runSteps_append,
        items_runSteps_filter, items_runSteps_filter, Option.elim_some]

/-- A recorded query that orders by values gives the same page of the same items, whatever order a store
has them in, if the order tells apart all items that are kept. The page is taken of the one
arrangement of them that is strictly increasing. -/
theorem execute_of_perm {schema : Schema} (honest : schema.Honest) {owner : schema.Ty}
    {arguments : Arguments} {options : ArgumentOptions} {query : LazyQuery (schema.Item owner)}
    (ordered : arguments.orderBy ≠ []) (applied : options.omitted = false)
    (asked : options.applyOrder = true)
    (recorded : (record schema owner arguments {} options).outcome = .ok query)
    : ∃ identified filtered chain,
        arguments.idCondition schema owner options = .ok identified
        ∧ arguments.whereCondition schema owner {} = .ok filtered
        ∧ (Order.compile schema owner {} arguments.orderBy).outcome = .ok (some chain)
        ∧ ∀ first second : List (schema.Item owner),
            first.Perm second →
            (keptBy filtered (keptBy identified first)).Pairwise
              (fun left right => chain.compare left right ≠ .eq) →
            query.execute first = query.execute second
            ∧ ∃ arranged,
                arranged.Perm (keptBy filtered (keptBy identified first))
                ∧ arranged.Pairwise (fun left right => chain.compare left right = .lt)
                ∧ query.execute first = arguments.page arranged := by
  obtain ⟨identified, filtered, chain, identifies, filters, orders, executes⟩ :=
    execute_of_record_ordered ordered applied asked recorded
  refine ⟨identified, filtered, chain, identifies, filters, orders, ?_⟩
  intro first second perm apart
  have preorder : Std.TransCmp chain.compare := Order.transCmp_of_compile honest rfl orders
  have kept := keptBy_perm filtered (keptBy_perm identified perm)
  refine ⟨?_, chain.sort (keptBy filtered (keptBy identified first)), chain.sort_perm _,
    chain.pairwise_lt_sort apart, executes first⟩
  rw [executes, executes, chain.sort_eq_of_perm kept apart]

/-- The second and the third of the exact readings, by level. -/
def exactReadings : Arguments where
  nodes := some [Node.leaf "error" .lessThan ["5"]]
  orderBy := [⟨"level", true⟩, ⟨"error", false⟩]
  skip := some 1
  take := some 2

/-- Exact readings with all sorts of levels, and a vague one that is there twice. -/
def someReadings : List Gauge.Reading :=
  [⟨none, .ofInt 1⟩, ⟨some (.ofInt 7), .ofInt 9⟩, ⟨some (.ofInt 5), .ofInt 0⟩, ⟨some .nan, .ofInt 0⟩,
    ⟨none, .ofInt 2⟩, ⟨some (.ofInt 7), .ofInt 9⟩]

/-- Whichever end the store begins at, the page is of the level that is no number and of the exacter of
two readings without a level. The vague reading is left out before its two copies could tie. -/
theorem execute_of_perm_someReadings
    : Gauge.schema.Honest
      ∧ ∃ query,
          (record Gauge.schema () exactReadings {} {}).outcome = .ok query
          ∧ query.execute someReadings = query.execute someReadings.reverse
          ∧ (query.execute someReadings).map Gauge.Reading.level = [some .nan, none] := by
  obtain ⟨query, recorded, levels⟩ := map_eq_ok.mp (by decide +kernel
    : (record Gauge.schema () exactReadings {} {}).outcome.map
        (fun query => (query.execute someReadings).map Gauge.Reading.level)
      = .ok [some .nan, none])
  obtain ⟨identified, filtered, chain, identifies, filters, orders, same⟩ :=
    execute_of_perm Gauge.honest (by decide) rfl rfl recorded
  have apart
      : (do
          let filtered ← exactReadings.whereCondition Gauge.schema () {}
          let chain ← (Order.compile Gauge.schema () {} exactReadings.orderBy).outcome
          let kept : List Gauge.Reading := keptBy filtered someReadings
          return chain.all fun chain : OrderChain Gauge.Reading =>
            decide (kept.Pairwise fun left right => chain.compare left right ≠ .eq))
        = (.ok true : Except QueryError Bool) := by
    decide +kernel
  rw [filters, ok_bind, orders, ok_bind] at apart
  cases identifies
  have distinct : (keptBy filtered someReadings).Pairwise
      (fun left right => chain.compare left right ≠ .eq) :=
    of_decide_eq_true (Except.ok.inj apart)
  exact ⟨Gauge.honest, query, recorded,
    (same _ _ (List.reverse_perm someReadings).symm distinct).1, levels⟩

end Arguments

end TypedQuery
