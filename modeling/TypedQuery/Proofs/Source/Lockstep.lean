import Mathlib.Data.List.Induction
import TypedQuery.Proofs.Accessor.Resolution
import TypedQuery.Proofs.Arguments.Steps

/-! A list in memory beside a query. Whatever is done to both, the query, once it is executed on the
items that the list began with, gives the items that the list has by then. The two part only where
a page is taken of items that nothing orders: the list has an order of its own, the query has none.
-/

namespace TypedQuery

-----------------------------------------------------------------------------------------
-- Steps on either source
-----------------------------------------------------------------------------------------

section Steps

variable {α : Type}

/-- Several steps in memory take effect one after the other. -/
theorem runSteps_memory (steps : List (QueryStep α)) (memory : InMemory α)
    : runSteps steps memory = steps.foldl (fun source step => step.run source) memory := by
  refine congrArg (steps.foldl · memory) ?_
  funext source step
  cases step <;> rfl

/-- Several steps on a query are recorded in order, by induction on the steps. -/
theorem runSteps_query (steps : List (QueryStep α)) (query : LazyQuery α)
    : runSteps steps query = ⟨query.steps ++ steps⟩ := by
  induction steps generalizing query with
  | nil => simp
  | cons step rest ih =>
      have pushed : step.on query = query.push step := by
        cases step <;> rfl
      rw [runSteps_cons, pushed, ih]
      simp [LazyQuery.push]

/-- Executing recorded steps runs them after those that were recorded before. -/
theorem execute_runSteps (steps : List (QueryStep α)) (query : LazyQuery α) (items : List α)
    : (runSteps steps query).execute items
      = (runSteps steps (InMemory.mk (query.execute items))).items := by
  rw [runSteps_query, runSteps_memory, LazyQuery.execute, List.foldl_append]
  rfl

end Steps

-----------------------------------------------------------------------------------------
-- Runs
-----------------------------------------------------------------------------------------

/-- What can be done to a source: a step by itself, or the steps of arguments. -/
inductive SourceStep (schema : Schema) (owner : schema.Ty) where
  | step (step : QueryStep (schema.Item owner))
  | apply (arguments : Arguments) (hooks : Hooks (schema.Item owner)) (options : ArgumentOptions)

namespace SourceStep

variable {schema : Schema} {owner : schema.Ty} {σ : Type} [QuerySource σ (schema.Item owner)]

/-- The outcome for a source. -/
def run (step : SourceStep schema owner) (source : σ) : Except QueryError σ :=
  match step with
  | .step step => .ok (step.on source)
  | .apply arguments hooks options =>
      (arguments.apply schema owner hooks options source).outcome

/-- The source afterwards, which a failure leaves as it was. -/
def settle (step : SourceStep schema owner) (source : σ) : σ :=
  match step.run source with
  | .ok next => next
  | .error _ => source

/-- Arguments that take a page of items without giving an order, although all that they do give
compiles; and the operation that takes the page. -/
inductive PagesUnordered : SourceStep schema owner → (operation : String) → Prop where
  | apply {arguments : Arguments} {hooks : Hooks (schema.Item owner)} {options : ArgumentOptions}
      (applied : options.omitted = false) (ordering : options.applyOrder = true)
      (unordered : arguments.orderBy = [])
      (paged : arguments.skip.isSome = true ∨ arguments.take.isSome = true)
      (identifies : (arguments.idCondition schema owner options).isOk = true)
      (filters : (arguments.whereCondition schema owner hooks).isOk = true)
      : PagesUnordered (.apply arguments hooks options)
          (if arguments.skip.isSome = true then "skip" else "take")

/-- The steps that a source is to take. -/
def steps (step : SourceStep schema owner)
    : Except QueryError (List (QueryStep (schema.Item owner))) :=
  match step with
  | .step step => .ok [step]
  | .apply arguments hooks options => arguments.steps schema owner hooks options

/-- The operation that takes a page of items that the step leaves unordered. -/
def unorderedPaging? : SourceStep schema owner → Option String
  | .step _ => none
  | .apply arguments _ options => arguments.unorderedPaging? options

/-- A step runs the steps that it stands for, on a source that has an order if one is needed. -/
theorem run_eq (step : SourceStep schema owner) (source : σ)
    : step.run source
      = do
          let steps ← step.steps
          Arguments.refusePaging
            (if QuerySource.hasStableOrder source then none else step.unorderedPaging?)
          return runSteps steps source := by
  cases step with
  | step step =>
      unfold unorderedPaging?
      split <;> rfl
  | apply arguments hooks options => exact Arguments.apply_outcome

/-- A list in memory takes every step that compiles. -/
theorem run_memory (step : SourceStep schema owner) (memory : InMemory (schema.Item owner))
    : step.run memory = do return runSteps (← step.steps) memory :=
  step.run_eq memory

/-- A query takes every step that compiles and takes no page of unordered items. -/
theorem run_query (step : SourceStep schema owner) (query : LazyQuery (schema.Item owner))
    : step.run query
      = do
          let steps ← step.steps
          Arguments.refusePaging step.unorderedPaging?
          return runSteps steps query :=
  step.run_eq query

/-- Taking a page of unordered items is what a step that compiles does against all rules. -/
theorem pagesUnordered_iff {step : SourceStep schema owner} {operation : String}
    : step.PagesUnordered operation
      ↔ step.steps.isOk = true ∧ step.unorderedPaging? = some operation := by
  constructor
  · intro pages
    cases pages with
    | @apply arguments hooks options applied ordering unordered paged identifies filters =>
        obtain ⟨identified, identifies⟩ := exists_eq_ok identifies
        obtain ⟨filtered, filters⟩ := exists_eq_ok filters
        have planned := Arguments.Planned.paged identifies filters ordering
          (Arguments.orderChain_of_no_keys unordered)
        refine ⟨?_, Arguments.unorderedPaging?_eq_some.mpr
          ⟨⟨applied, ordering, unordered⟩, paged, rfl⟩⟩
        rw [steps, (Arguments.steps_eq_ok applied).mpr planned]
        rfl
  · rintro ⟨compiles, paging⟩
    cases step with
    | step step => cases paging
    | apply arguments hooks options =>
        obtain ⟨⟨applied, ordering, unordered⟩, paged, rfl⟩ :=
          Arguments.unorderedPaging?_eq_some.mp paging
        obtain ⟨steps, compiles⟩ := exists_eq_ok compiles
        cases (Arguments.steps_eq_ok applied).mp compiles with
        | kept identifies filters _ =>
            exact .apply applied ordering unordered paged (by rw [identifies]; rfl)
              (by rw [filters]; rfl)
        | paged identifies filters _ _ =>
            exact .apply applied ordering unordered paged (by rw [identifies]; rfl)
              (by rw [filters]; rfl)

end SourceStep

/-- A list in memory and a query that the same is done to. -/
structure Lockstep (schema : Schema) (owner : schema.Ty) where
  memory : InMemory (schema.Item owner)
  query : LazyQuery (schema.Item owner)

namespace Lockstep

variable {schema : Schema} {owner : schema.Ty}

/-- The items, and a query that asks for nothing yet. -/
def start (items : List (schema.Item owner)) : Lockstep schema owner :=
  ⟨⟨items⟩, ⟨[]⟩⟩

/-- Both sources after a step. -/
def advance (state : Lockstep schema owner) (step : SourceStep schema owner)
    : Lockstep schema owner :=
  ⟨step.settle state.memory, step.settle state.query⟩

/-- Both sources after several steps, the first one first. -/
def after (items : List (schema.Item owner)) (steps : List (SourceStep schema owner))
    : Lockstep schema owner :=
  steps.foldl advance (start items)

/-- The list takes the step and the query does not. -/
def RefusedByQueryAlone (state : Lockstep schema owner) (step : SourceStep schema owner) : Prop :=
  (step.run state.memory).isOk = true ∧ (step.run state.query).isOk = false

/-- Executed on the items that the list began with, the query gives those that it has now. -/
def Agrees (items : List (schema.Item owner)) (state : Lockstep schema owner) : Prop :=
  state.query.execute items = state.memory.items

/-- How a step goes on the list and on the query: it fails on both, it runs the same steps on both,
or it takes a page of unordered items of the list and is refused by the query. -/
inductive Goes (state : Lockstep schema owner) (step : SourceStep schema owner) : Prop where
  | fails {error : QueryError} (ordered : ∀ operation, ¬ step.PagesUnordered operation)
      (memory : step.run state.memory = .error error)
      (query : step.run state.query = .error error)
  | runs {steps : List (QueryStep (schema.Item owner))}
      (ordered : ∀ operation, ¬ step.PagesUnordered operation)
      (memory : step.run state.memory = .ok (runSteps steps state.memory))
      (query : step.run state.query = .ok (runSteps steps state.query))
  | parts {operation : String} {steps : List (QueryStep (schema.Item owner))}
      (pages : ∀ other, step.PagesUnordered other ↔ other = operation)
      (memory : step.run state.memory = .ok (runSteps steps state.memory))
      (query : step.run state.query = .error (.configuration operation .unstableOrder))

/-- A step goes in one of these ways, whatever was done before. -/
theorem goes (state : Lockstep schema owner) (step : SourceStep schema owner)
    : state.Goes step := by
  have memory := step.run_memory state.memory
  have query := step.run_query state.query
  cases compiled : step.steps with
  | error error =>
      rw [compiled] at memory query
      exact .fails (by simp [SourceStep.pagesUnordered_iff, compiled]) memory query
  | ok steps =>
      rw [compiled] at memory query
      cases paging : step.unorderedPaging? with
      | none =>
          rw [paging] at query
          exact .runs (by simp [SourceStep.pagesUnordered_iff, paging]) memory query
      | some operation =>
          rw [paging] at query
          exact .parts (by simp [SourceStep.pagesUnordered_iff, compiled, paging, eq_comm]) memory
            query

/-- The query refuses a step alone exactly if the step takes a page of unordered items. -/
theorem refusedByQueryAlone_iff {state : Lockstep schema owner} {step : SourceStep schema owner}
    : state.RefusedByQueryAlone step ↔ ∃ operation, step.PagesUnordered operation := by
  rw [RefusedByQueryAlone]
  cases state.goes step with
  | fails ordered memory query => simp [memory, ordered]
  | runs ordered memory query => simp [query, ordered]
  | parts pages memory query => simp [memory, query, pages]

/-- A step that the query does not refuse alone keeps list and query in agreement: it fails on both
and leaves them as they were, or it runs the same steps on both. -/
theorem Agrees.advance {items : List (schema.Item owner)} {state : Lockstep schema owner}
    {step : SourceStep schema owner} (agrees : state.Agrees items)
    (together : ¬ state.RefusedByQueryAlone step)
    : (state.advance step).Agrees items := by
  unfold Lockstep.advance SourceStep.settle
  cases state.goes step with
  | fails _ memory query =>
      rw [memory, query]
      exact agrees
  | @runs steps _ memory query =>
      rw [memory, query]
      refine (execute_runSteps steps state.query items).trans ?_
      rw [agrees]
  -- Here alone the list moves on and the query stays behind.
  | parts pages _ _ =>
      exact absurd (refusedByQueryAlone_iff.mpr ⟨_, (pages _).mpr rfl⟩) together

/-- List and query agree after every run in which the query refused no step alone, by induction on
the run from its end. -/
theorem agrees_after {items : List (schema.Item owner)} {steps : List (SourceStep schema owner)}
    (together
      : ∀ done step rest, done ++ step :: rest = steps
          → ¬ (after items done).RefusedByQueryAlone step)
    : (after items steps).Agrees items := by
  induction steps using List.reverseRecOn with
  | nil => rfl
  | append_singleton done step ih =>
      rw [after, List.foldl_append]
      refine Agrees.advance (ih fun before other rest same => ?_) (together done step [] rfl)
      exact together before other (rest ++ [step]) (by rw [← same]; simp)

/-- After every run in which the query refused no step alone it gives, executed on the items that
the list began with, the items of the list in their order. And wherever a run has led, a further
step succeeds on both or fails on both with the same error; only a page of unordered items is taken
of the list and refused by the query. -/
theorem execute_after (items : List (schema.Item owner)) (steps : List (SourceStep schema owner))
    : ((∀ done step rest, done ++ step :: rest = steps
          → ¬ (after items done).RefusedByQueryAlone step)
        → (after items steps).query.execute items = (after items steps).memory.items)
      ∧ ∀ step : SourceStep schema owner,
          (∀ operation, step.PagesUnordered operation
            → (step.run (after items steps).memory).isOk = true
              ∧ step.run (after items steps).query
                = .error (.configuration operation .unstableOrder))
          ∧ ((∀ operation, ¬ step.PagesUnordered operation)
            → ((step.run (after items steps).memory).isOk = true
                ∧ (step.run (after items steps).query).isOk = true)
              ∨ ∃ error,
                  step.run (after items steps).memory = .error error
                  ∧ step.run (after items steps).query = .error error) := by
  refine ⟨agrees_after, fun step => ?_⟩
  cases (after items steps).goes step with
  | fails ordered memory query =>
      exact ⟨fun operation pages => absurd pages (ordered operation), fun _ =>
        .inr ⟨_, memory, query⟩⟩
  | runs ordered memory query =>
      exact ⟨fun operation pages => absurd pages (ordered operation), fun _ =>
        .inl ⟨by rw [memory]; rfl, by rw [query]; rfl⟩⟩
  | parts pages memory query =>
      refine ⟨fun other paging => ⟨by rw [memory]; rfl, ?_⟩, fun ordered => ?_⟩
      · rw [(pages other).mp paging, query]
      · exact absurd ((pages _).mpr rfl) (ordered _)

/-- The first order is skipped, then those with a larger number are asked for, and at last some by
two keys, which fails. -/
def largerNumbers : List (SourceStep Shop.schema .order) :=
  [.step (.skip 1),
    .apply
      { nodes := some [Node.leaf "number" .greaterThan ["7"]]
        orderBy := [⟨"number", true⟩]
        take := some 2 }
      {} {},
    .apply { ids := some ["8"] } {} { keyNames := ["number", "customer"] }]

/-- A page without an order is taken of a list that the query has agreed with up to then. -/
theorem execute_after_largerNumbers
    : let state := after (Shop.order :: Shop.order.followUps) largerNumbers
      let page : SourceStep Shop.schema .order := .apply { take := some 1 } {} {}
      state.query.execute (Shop.order :: Shop.order.followUps) = state.memory.items
      ∧ (page.run state.memory).isOk = true
      ∧ page.run state.query = .error (.configuration "take" .unstableOrder) := by
  intro state page
  have both := execute_after (Shop.order :: Shop.order.followUps) largerNumbers
  refine ⟨both.1 fun done step rest same alone => ?_, (both.2 page).1 "take" ?_⟩
  · have ordered : ∀ step ∈ largerNumbers, step.unorderedPaging? = none := by decide
    obtain ⟨operation, pages⟩ := refusedByQueryAlone_iff.mp alone
    have paging := (SourceStep.pagesUnordered_iff.mp pages).2
    rw [ordered step (by rw [← same]; simp)] at paging
    cases paging
  · exact .apply rfl rfl rfl (.inr rfl) rfl rfl

end Lockstep

end TypedQuery
