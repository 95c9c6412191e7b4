import TypedQuery.Proofs.Accessor.Resolution
import TypedQuery.Proofs.Arguments.Steps
import TypedQuery.Proofs.Hooks.Walk

/-! The hooks that arguments call. First the where tree is walked and then the order keys are gone through,
up to the first attempt that fails. Arguments that are left out, or whose identifiers are refused, call no
hook.
-/

namespace TypedQuery

namespace Arguments

section Protocol

variable (schema : Schema) (owner : schema.Ty) (arguments : Arguments)
  (hooks : Hooks (schema.Item owner)) (options : ArgumentOptions)

/-- What is attempted on the order keys, if an order is asked for. -/
def keyAttempts : List Attempt :=
  if options.applyOrder then hooks.visitKeys arguments.orderBy else []

/-- Why a page is refused: nothing orders the items, and `isStable` tells that the source has no order of
its own. -/
def pagingRefusal? (isStable : Bool) : Option QueryError :=
  if isStable then none
  else (arguments.unorderedPaging? options).map fun operation =>
    .configuration operation .unstableOrder

/-- The calls of hooks while arguments are applied, and the error at the end if there is one. Only what
the walk of the where tree and the keys after it attempt calls hooks. -/
inductive Protocol (isStable : Bool) : List HookEvent → Option QueryError → Prop where
  | omitted (omitted : options.omitted = true) : Protocol isStable [] none
  | unidentified {error : QueryError} (applied : options.omitted = false)
      (fails : arguments.idCondition schema owner options = .error error)
      : Protocol isStable [] (some error)
  | walked {identified : Option (Predicate (schema.Item owner))} {walk : List Attempt}
      (applied : options.omitted = false)
      (identifies : arguments.idCondition schema owner options = .ok identified)
      (walks : hooks.Walk (arguments.nodes.getD []) walk)
      : Protocol isStable
          (Attempt.callsUntil (Attempt.failure? schema owner hooks)
            (walk ++ arguments.keyAttempts schema owner hooks options))
          (((walk ++ arguments.keyAttempts schema owner hooks options).findSome?
              (Attempt.failure? schema owner hooks)).or
            (arguments.pagingRefusal? options isStable))

end Protocol

variable {schema : Schema} {owner : schema.Ty} {arguments : Arguments}
  {hooks : Hooks (schema.Item owner)} {options : ArgumentOptions}

section Apply

variable {σ : Type} [QuerySource σ (schema.Item owner)] {source : σ}

/-- Looking for identifiers calls no hook. -/
theorem applyIds_events : (applyIds schema owner arguments options source).events = [] := by
  unfold applyIds
  split
  · rfl
  · rfl
  · next ids key _ _ => cases Clause.compile schema owner (Clause.ofIds key ids) <;> rfl
  · rfl

/-- If identifiers can be looked for, nothing is attempted with hooks. -/
theorem applyIds_follows {identified : Option (Predicate (schema.Item owner))}
    (identifies : arguments.idCondition schema owner options = .ok identified)
    : (applyIds schema owner arguments options source).Follows
        (Attempt.failure? schema owner hooks) [] where
  calls := applyIds_events
  failure := by
    rw [applyIds_outcome, identifies]
    rfl

theorem applyWhere_follows (adds : hooks.AddsNoGenerations) {walk : List Attempt}
    (walks : hooks.Walk (arguments.nodes.getD []) walk)
    : (applyWhere schema owner arguments hooks source).Follows
        (Attempt.failure? schema owner hooks) walk := by
  cases given : arguments.nodes with
  | none =>
      rw [given] at walks
      simp only [applyWhere, given]
      rw [walks.eq_nil]
      exact .pure source
  | some nodes =>
      rw [given] at walks
      simp only [applyWhere, given]
      exact (Where.compile_follows adds walks).map _

/-- What comes after the keys calls no hook. -/
theorem applyOrder_events {isStable : Bool}
    : (applyOrder schema owner arguments hooks isStable source).events
      = Attempt.callsUntil (Attempt.failure? schema owner hooks)
          (hooks.visitKeys arguments.orderBy) := by
  rw [applyOrder, ← List.append_nil (hooks.visitKeys arguments.orderBy)]
  refine (Order.compile_follows arguments.orderBy).bind_calls fun chain _ => ?_
  generalize (chain.isSome || isStable) = isDefinite
  cases arguments.skip <;> cases arguments.take <;> cases isDefinite <;> rfl

/-- Arguments that apply call what the walk and the keys attempt. -/
theorem apply_events (adds : hooks.AddsNoGenerations) (applied : options.omitted = false)
    {identified : Option (Predicate (schema.Item owner))}
    (identifies : arguments.idCondition schema owner options = .ok identified)
    {walk : List Attempt} (walks : hooks.Walk (arguments.nodes.getD []) walk)
    : (apply schema owner arguments hooks options source).events
      = Attempt.callsUntil (Attempt.failure? schema owner hooks)
          (walk ++ arguments.keyAttempts schema owner hooks options) := by
  rw [apply, if_neg (by simp [applied]), ← List.nil_append (walk ++ _)]
  refine (applyIds_follows identifies).bind_calls fun kept _ => ?_
  refine (applyWhere_follows adds walks).bind_calls fun filtered _ => ?_
  cases asked : options.applyOrder with
  | false =>
      simp only [keyAttempts, asked, Bool.false_eq_true, if_false]
      rfl
  | true => simp only [keyAttempts, asked, if_true, applyOrder_events]

/-- A condition fails as what its tree attempts. -/
theorem error?_whereCondition (adds : hooks.AddsNoGenerations) {walk : List Attempt}
    (walks : hooks.Walk (arguments.nodes.getD []) walk)
    : error? (arguments.whereCondition schema owner hooks)
      = walk.findSome? (Attempt.failure? schema owner hooks) := by
  unfold whereCondition
  cases given : arguments.nodes with
  | none =>
      rw [given] at walks
      rw [walks.eq_nil]
      rfl
  | some nodes =>
      rw [given] at walks
      exact (error?_map _ _).trans (Where.compile_follows adds walks).failure

/-- Steps fail as the walk or, if an order is asked for, else as the keys. -/
theorem error?_steps (adds : hooks.AddsNoGenerations) (applied : options.omitted = false)
    {identified : Option (Predicate (schema.Item owner))}
    (identifies : arguments.idCondition schema owner options = .ok identified)
    {walk : List Attempt} (walks : hooks.Walk (arguments.nodes.getD []) walk)
    : error? (arguments.steps schema owner hooks options)
      = (walk ++ arguments.keyAttempts schema owner hooks options).findSome?
          (Attempt.failure? schema owner hooks) := by
  rw [steps, if_neg (by simp [applied]), identifies, ok_bind, List.findSome?_append,
    ← error?_whereCondition adds walks]
  refine error?_bind fun kept _ => ?_
  cases asked : options.applyOrder with
  | false => simp [keyAttempts, asked, Pure.pure, Except.pure, error?]
  | true =>
      simp only [keyAttempts, asked, if_true]
      rw [← (Order.compile_follows arguments.orderBy).failure, ← orderChain]
      cases arguments.orderChain schema owner hooks <;> rfl

/-- Arguments that apply fail as the walk or the keys, or else by taking a page of unordered items. -/
theorem error?_apply (adds : hooks.AddsNoGenerations) (applied : options.omitted = false)
    {identified : Option (Predicate (schema.Item owner))}
    (identifies : arguments.idCondition schema owner options = .ok identified)
    {walk : List Attempt} (walks : hooks.Walk (arguments.nodes.getD []) walk)
    : error? (apply schema owner arguments hooks options source).outcome
      = ((walk ++ arguments.keyAttempts schema owner hooks options).findSome?
            (Attempt.failure? schema owner hooks)).or
          (arguments.pagingRefusal? options (QuerySource.hasStableOrder source)) := by
  rw [apply_outcome, ← error?_steps adds applied identifies walks]
  refine error?_bind fun steps _ => ?_
  unfold pagingRefusal?
  cases QuerySource.hasStableOrder source <;> cases arguments.unorderedPaging? options <;> rfl

/-- Arguments whose identifiers are refused call no hook. -/
theorem apply_unidentified (applied : options.omitted = false) {error : QueryError}
    (fails : arguments.idCondition schema owner options = .error error)
    : (apply schema owner arguments hooks options source).events = []
      ∧ (apply schema owner arguments hooks options source).outcome = .error error := by
  have refused : (applyIds schema owner arguments options source).outcome = .error error := by
    rw [applyIds_outcome, fails]
    rfl
  constructor
  · rw [apply, if_neg (by simp [applied]), Traced.events_bind_of_error refused, applyIds_events]
  · rw [apply_outcome, steps, if_neg (by simp [applied]), fails]
    rfl

end Apply

/-- Applying arguments calls hooks by the protocol, if edits add no generations of nodes. Where a hook
refuses, the error is its own and names no clause. -/
theorem apply_protocol (schema : Schema) (owner : schema.Ty) (arguments : Arguments)
    (hooks : Hooks (schema.Item owner)) (options : ArgumentOptions)
    (adds : hooks.AddsNoGenerations) {σ : Type} [QuerySource σ (schema.Item owner)] (source : σ)
    : arguments.Protocol schema owner hooks options (QuerySource.hasStableOrder source)
        (apply schema owner arguments hooks options source).events
        (error? (apply schema owner arguments hooks options source).outcome)
      ∧ ∀ attempt error, attempt.call?.isSome = true →
          Attempt.failure? schema owner hooks attempt = some error →
          ∃ message, error = .hook message := by
  refine ⟨?_, fun attempt error => Attempt.hook_of_failure?⟩
  cases omission : options.omitted with
  | true =>
      have unchanged : apply schema owner arguments hooks options source = pure source := by
        simp [apply, omission]
      rw [unchanged]
      exact .omitted omission
  | false =>
      cases identifies : arguments.idCondition schema owner options with
      | error error =>
          have refused : (apply schema owner arguments hooks options source).events = []
              ∧ (apply schema owner arguments hooks options source).outcome = .error error :=
            apply_unidentified omission identifies
          rw [refused.1, refused.2]
          exact .unidentified omission identifies
      | ok identified =>
          obtain ⟨walk, walks⟩ := adds.exists_walk (arguments.nodes.getD [])
          rw [apply_events adds omission identifies walks,
            error?_apply adds omission identifies walks]
          exact .walked omission identifies walks

/-- Hooks that cut groups down to two nodes and let none name a secret, that stand in for what a customer
owns, and that put the shortest names first if names come first. -/
def supervision : Hooks Shop.Order where
  preprocessor := some
    { edit := fun node =>
        if node.path = "secret" then .error "no access"
        else .ok { node with children := node.children.map (List.take 2) } }
  provider := some fun node =>
    if node.path = "own" then .ok (some (.constant true)) else .ok none
  sorter := some fun key primary =>
    if primary && key.path == "customer" then
      .ok (some ⟨key.path, .ascending, fun left right =>
        compare left.customer.length right.customer.length⟩)
    else .ok none

/-- Cutting groups down adds nothing to them. -/
theorem supervision_addsNoGenerations : supervision.AddsNoGenerations := by
  apply Hooks.addsNoGenerations_of_subset
  intro node
  by_cases secret : node.path = "secret"
  · simp [Hooks.edited, supervision, secret, Except.toOption]
  · cases given : node.children with
    | none => simp [Hooks.edited, supervision, secret, given, Except.toOption]
    | some children =>
        simpa [Hooks.edited, supervision, secret, given, Except.toOption]
          using List.take_subset 2 children

/-- A group of three nodes, a clause on a path, and two keys. -/
def supervised (path : String) : Arguments where
  nodes := some
    [.group [.leaf "own" .equal ["1"], .leaf "number" .equal ["7"], .leaf "secret" .equal []],
      .leaf path .equal ["Ann"]]
  orderBy := [⟨"customer", false⟩, ⟨"number", true⟩]

/-- The third node of the group is cut off, so no hook is called for it. After the group comes the clause,
and then come the keys, unless the clause is on a secret. -/
theorem apply_protocol_supervised
    : supervision.AddsNoGenerations
      ∧ (supervised "customer").Protocol Shop.schema .order supervision {} true
        [.preprocess "" true, .provide "" true, .preprocess "own" false, .provide "own" false,
          .preprocess "number" false, .provide "number" false, .preprocess "customer" false,
          .provide "customer" false, .sort "customer" false true, .sort "number" true false]
        none
      ∧ (supervised "secret").Protocol Shop.schema .order supervision {} true
        [.preprocess "" true, .provide "" true, .preprocess "own" false, .provide "own" false,
          .preprocess "number" false, .provide "number" false, .preprocess "secret" false]
        (some (.hook "no access")) := by
  have adds := supervision_addsNoGenerations
  have protocol (path : String) {events : List HookEvent} {failure : Option QueryError}
      (called
        : (apply Shop.schema .order (supervised path) supervision {}
            (InMemory.mk [Shop.order])).events = events)
      (ended
        : error? (apply Shop.schema .order (supervised path) supervision {}
            (InMemory.mk [Shop.order])).outcome = failure)
      : (supervised path).Protocol Shop.schema .order supervision {} true events failure := by
    rw [← called, ← ended]
    exact (apply_protocol Shop.schema .order (supervised path) supervision {} adds
      (InMemory.mk [Shop.order])).1
  exact ⟨adds, protocol "customer" (by decide +kernel) (by decide +kernel),
    protocol "secret" (by decide +kernel) (by decide +kernel)⟩

end Arguments

end TypedQuery
