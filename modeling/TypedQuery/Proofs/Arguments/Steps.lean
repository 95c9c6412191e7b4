import TypedQuery.Arguments.Apply
import TypedQuery.Proofs.Hooks.Outcome

/-! Arguments as steps. Applying arguments comes down to the same steps for every source, taken one
after the other. A source only decides whether a page may be taken of items that nothing orders.
-/

namespace TypedQuery

section Running

variable {σ α : Type} [QuerySource σ α]

/-- The effect of a step on a source of any kind. -/
def QueryStep.on (step : QueryStep α) (source : σ) : σ :=
  match step with
  | .filter predicate => QuerySource.filter predicate source
  | .order chain => QuerySource.order chain source
  | .skip count => QuerySource.skip count source
  | .take count => QuerySource.take count source

/-- The effect of several steps, the first one first. -/
def runSteps (steps : List (QueryStep α)) (source : σ) : σ :=
  steps.foldl (fun source step => step.on source) source

@[simp] theorem runSteps_nil (source : σ) : runSteps [] source = source :=
  rfl

@[simp] theorem runSteps_cons (step : QueryStep α) (rest : List (QueryStep α)) (source : σ)
    : runSteps (step :: rest) source = runSteps rest (step.on source) :=
  rfl

@[simp] theorem runSteps_append (first second : List (QueryStep α)) (source : σ)
    : runSteps (first ++ second) source = runSteps second (runSteps first source) :=
  List.foldl_append

end Running

namespace Arguments

-----------------------------------------------------------------------------------------
-- The steps that arguments ask for
-----------------------------------------------------------------------------------------

section Stages

variable (schema : Schema) (owner : schema.Ty) (arguments : Arguments)
  (hooks : Hooks (schema.Item owner)) (options : ArgumentOptions)

/-- The condition that the identifiers set. Without identifiers, or without a key property to find
them in, there is none; several key properties are refused. -/
def idCondition : Except QueryError (Option (Predicate (schema.Item owner))) :=
  match arguments.ids, options.keyNames with
  | none, _ => .ok none
  | some _, [] => .ok none
  | some ids, [key] => (Clause.compile schema owner ⟨key, .isIn, ids.map some, false⟩).map some
  | some _, keys => .error (.configuration "ids" (.compositeKey keys.length))

/-- The condition that the where tree sets, if there is a tree. -/
def whereCondition : Except QueryError (Option (Predicate (schema.Item owner))) :=
  match arguments.nodes with
  | none => .ok none
  | some nodes => (Where.compile schema owner hooks nodes).outcome.map some

/-- The chain that the order keys amount to, if there are keys. -/
def orderChain : Except QueryError (Option (OrderChain (schema.Item owner))) :=
  (Order.compile schema owner hooks arguments.orderBy).outcome

/-- The steps that put the items in order and take the page asked for. -/
def pageSteps {α : Type} (chain : Option (OrderChain α)) : List (QueryStep α) :=
  chain.toList.map .order ++ arguments.skip.toList.map .skip ++ arguments.take.toList.map .take

/-- The steps that arguments ask for. -/
def steps : Except QueryError (List (QueryStep (schema.Item owner))) :=
  if options.omitted then .ok []
  else do
    let identified ← arguments.idCondition schema owner options
    let kept ← arguments.whereCondition schema owner hooks
    let filters := identified.toList.map .filter ++ kept.toList.map .filter
    if options.applyOrder then
      let chain ← arguments.orderChain schema owner hooks
      return filters ++ arguments.pageSteps chain
    else return filters

/-- The steps of arguments that apply: filters, and after them order and page if these are asked
for. -/
inductive Planned : List (QueryStep (schema.Item owner)) → Prop where
  | kept {identified filtered : Option (Predicate (schema.Item owner))}
      (identifies : arguments.idCondition schema owner options = .ok identified)
      (filters : arguments.whereCondition schema owner hooks = .ok filtered)
      (unasked : options.applyOrder = false)
      : Planned (identified.toList.map .filter ++ filtered.toList.map .filter)
  | paged {identified filtered : Option (Predicate (schema.Item owner))}
      {chain : Option (OrderChain (schema.Item owner))}
      (identifies : arguments.idCondition schema owner options = .ok identified)
      (filters : arguments.whereCondition schema owner hooks = .ok filtered)
      (asked : options.applyOrder = true)
      (orders : arguments.orderChain schema owner hooks = .ok chain)
      : Planned
          (identified.toList.map .filter ++ filtered.toList.map .filter
            ++ arguments.pageSteps chain)

/-- The first operation that the arguments take a page with. -/
def paging? : Option String :=
  if arguments.skip.isSome then some "skip"
  else if arguments.take.isSome then some "take"
  else none

/-- The first operation that takes a page of items that the arguments leave unordered. -/
def unorderedPaging? : Option String :=
  if options.omitted || !options.applyOrder || !arguments.orderBy.isEmpty then none
  else arguments.paging?

/-- Refuses to take a page with an operation. -/
def refusePaging : Option String → Except QueryError Unit
  | none => .ok ()
  | some operation => .error (.configuration operation .unstableOrder)

end Stages

-----------------------------------------------------------------------------------------
-- Applying arguments runs their steps
-----------------------------------------------------------------------------------------

variable {schema : Schema} {owner : schema.Ty} {arguments : Arguments}
  {hooks : Hooks (schema.Item owner)} {options : ArgumentOptions}

/-- There is a chain exactly if there are order keys. -/
theorem isSome_of_orderChain {chain : Option (OrderChain (schema.Item owner))}
    (compiled : arguments.orderChain schema owner hooks = .ok chain)
    : chain.isSome = !arguments.orderBy.isEmpty := by
  unfold orderChain Order.compile at compiled
  split at compiled
  · next empty =>
    cases compiled
    simp [empty]
  · next keys =>
    rw [Traced.outcome_bind] at compiled
    obtain ⟨sorting, -, same⟩ := bind_eq_ok.mp compiled
    cases same
    simpa using keys

/-- Without order keys no chain is asked for, and none can be refused. -/
theorem orderChain_of_no_keys (unordered : arguments.orderBy = [])
    : arguments.orderChain schema owner hooks = .ok none := by
  rw [orderChain, unordered]
  rfl

/-- A page of unordered items is taken with skip if items are skipped, and else with take. -/
theorem unorderedPaging?_eq_some {operation : String}
    : arguments.unorderedPaging? options = some operation
      ↔ (options.omitted = false ∧ options.applyOrder = true ∧ arguments.orderBy = [])
        ∧ (arguments.skip.isSome = true ∨ arguments.take.isSome = true)
        ∧ operation = if arguments.skip.isSome = true then "skip" else "take" := by
  unfold unorderedPaging? paging?
  cases options.omitted <;> cases options.applyOrder <;> cases arguments.orderBy <;>
    cases arguments.skip <;> cases arguments.take <;> simp [eq_comm]

/-- Steps are what the stages that succeed plan. -/
theorem steps_eq_ok {steps : List (QueryStep (schema.Item owner))}
    (applied : options.omitted = false)
    : arguments.steps schema owner hooks options = .ok steps
      ↔ arguments.Planned schema owner hooks options steps := by
  rw [Arguments.steps, if_neg (by simp [applied])]
  constructor
  · intro succeeds
    obtain ⟨identified, identifies, succeeds⟩ := bind_eq_ok.mp succeeds
    obtain ⟨filtered, filters, succeeds⟩ := bind_eq_ok.mp succeeds
    split at succeeds
    · next asked =>
      obtain ⟨chain, orders, same⟩ := bind_eq_ok.mp succeeds
      cases same
      exact .paged identifies filters asked orders
    · next unasked =>
      cases succeeds
      exact .kept identifies filters (by simpa using unasked)
  · intro planned
    cases planned with
    | kept identifies filters unasked =>
        rw [identifies, ok_bind, filters, ok_bind, if_neg (by simp [unasked])]
        rfl
    | paged identifies filters asked orders =>
        rw [identifies, ok_bind, filters, ok_bind, if_pos asked, orders, ok_bind]
        rfl

section Apply

variable {σ : Type} [QuerySource σ (schema.Item owner)] {source : σ}

theorem applyIds_outcome
    : (applyIds schema owner arguments options source).outcome
      = do
          let identified ← arguments.idCondition schema owner options
          return runSteps (identified.toList.map .filter) source := by
  rcases asked : arguments.ids with _ | ids
  · simp [applyIds, idCondition, asked]
  · rcases keys : options.keyNames with _ | ⟨key, _ | ⟨second, others⟩⟩
    · simp [applyIds, idCondition, asked, keys]
    · simp only [applyIds, idCondition, asked, keys, Traced.outcome_bind, Traced.outcome_ofExcept,
        Clause.ofIds]
      cases Clause.compile schema owner ⟨key, .isIn, ids.map some, false⟩ <;> rfl
    · simp [applyIds, idCondition, asked, keys]

theorem applyWhere_outcome
    : (applyWhere schema owner arguments hooks source).outcome
      = do
          let kept ← arguments.whereCondition schema owner hooks
          return runSteps (kept.toList.map .filter) source := by
  rcases asked : arguments.nodes with _ | nodes
  · simp [applyWhere, whereCondition, asked]
  · simp only [applyWhere, whereCondition, asked, Traced.outcome_bind]
    cases (Where.compile schema owner hooks nodes).outcome <;> rfl

/-- The page is taken after the order, unless there is none to rely on. -/
theorem applyOrder_outcome {isStable : Bool}
    : (applyOrder schema owner arguments hooks isStable source).outcome
      = do
          let chain ← arguments.orderChain schema owner hooks
          refusePaging (if (chain.isSome || isStable) = true then none else arguments.paging?)
          return runSteps (arguments.pageSteps chain) source := by
  simp only [applyOrder, Traced.outcome_bind]
  rw [← orderChain]
  cases arguments.orderChain schema owner hooks with
  | error error => rfl
  | ok chain =>
      simp only [ok_bind, pageSteps, paging?, checkDefiniteOrder]
      -- Both operations make the same check, so the first one present tells the error.
      generalize (chain.isSome || isStable) = isDefinite
      cases chain <;> cases arguments.skip <;> cases arguments.take <;> cases isDefinite <;> rfl

/-- Applying arguments to a source runs their steps on it, unless they take a page of items that
neither they nor the source put in order. -/
theorem apply_outcome
    : (apply schema owner arguments hooks options source).outcome
      = do
          let steps ← arguments.steps schema owner hooks options
          refusePaging
            (if QuerySource.hasStableOrder source then none else arguments.unorderedPaging? options)
          return runSteps steps source := by
  unfold apply steps unorderedPaging?
  split
  · next omitted =>
    simp [omitted, refusePaging]
  · next applied =>
    simp only [Traced.outcome_bind, applyIds_outcome, applyWhere_outcome, bind_assoc, pure_bind]
    refine congrArg _ (funext fun identified => congrArg _ (funext fun kept => ?_))
    cases ordering : options.applyOrder with
    | true =>
        simp only [if_true, applyOrder_outcome, bind_assoc, pure_bind]
        cases compiled : arguments.orderChain schema owner hooks with
        | error error => rfl
        | ok chain =>
            -- Without order keys there is no chain, and only the source may have an order.
            have given := isSome_of_orderChain compiled
            cases keyless : arguments.orderBy.isEmpty <;>
              cases QuerySource.hasStableOrder source <;>
                simp [given, keyless, applied]
    | false => simp [refusePaging]

end Apply

end Arguments

end TypedQuery
