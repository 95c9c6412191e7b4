import TypedQuery.Order.Compile
import TypedQuery.Proofs.Hooks.Outcome

/-! What is attempted while arguments are compiled: hooks are called, and clauses and keys that no hook
stands in for are compiled. A computation follows a list of attempts if it makes them in order up to the
first that fails, calls the hooks that these call, and fails as the last of them does.
-/

namespace TypedQuery

-----------------------------------------------------------------------------------------
-- Attempts
-----------------------------------------------------------------------------------------

/-- Something that is attempted and can fail, with all that it is given. -/
inductive Attempt where
  | preprocess (node : Node)
  | provide (node : Node)
  | clause (clause : Clause)
  | sort (key : OrderKey) (primary : Bool)
  | property (key : OrderKey)

namespace Attempt

/-- The trace of the hook that is called. Clauses and keys are compiled without one. -/
def call? : Attempt → Option HookEvent
  | .preprocess node => some (.preprocess node.path node.isGroup)
  | .provide node => some (.provide node.path node.isGroup)
  | .sort key primary => some (.sort key.path key.descending primary)
  | .clause _ | .property _ => none

/-- The error of an attempt that fails. A hook fails in its own words, whatever it is called for. -/
def failure? (schema : Schema) (owner : schema.Ty) (hooks : Hooks (schema.Item owner))
    : Attempt → Option QueryError
  | .preprocess node =>
      hooks.preprocessor.bind fun preprocessor => (error? (preprocessor.edit node)).map .hook
  | .provide node => hooks.provider.bind fun provide => (error? (provide node)).map .hook
  | .clause leaf => error? (leaf.compile schema owner)
  | .sort key primary => hooks.sorter.bind fun sorter => (error? (sorter key primary)).map .hook
  | .property key => error? (Order.propertyKey schema owner key)

/-- A hook that fails does so with its own message. -/
theorem hook_of_failure? {schema : Schema} {owner : schema.Ty} {hooks : Hooks (schema.Item owner)}
    {attempt : Attempt} {error : QueryError} (called : attempt.call?.isSome = true)
    (failed : attempt.failure? schema owner hooks = some error)
    : ∃ message, error = .hook message := by
  cases attempt <;> simp only [call?, Option.isSome_none, Bool.false_eq_true] at called
  all_goals
    obtain ⟨hook, -, refused⟩ := Option.bind_eq_some_iff.mp failed
    obtain ⟨message, -, same⟩ := Option.map_eq_some_iff.mp refused
    exact ⟨message, same.symm⟩

/-- The traces of attempts that are made one after the other until one fails. -/
def callsUntil (fails : Attempt → Option QueryError) : List Attempt → List HookEvent
  | [] => []
  | attempt :: rest =>
      attempt.call?.toList ++ if (fails attempt).isSome then [] else callsUntil fails rest

/-- After a failure nothing is attempted any more. -/
theorem callsUntil_append (fails : Attempt → Option QueryError) (first second : List Attempt)
    : callsUntil fails (first ++ second)
      = callsUntil fails first
        ++ if (first.findSome? fails).isSome then [] else callsUntil fails second := by
  induction first with
  | nil => rfl
  | cons attempt rest ih =>
      cases failed : fails attempt <;> simp [callsUntil, failed, ih]

end Attempt

-----------------------------------------------------------------------------------------
-- Computations that follow attempts
-----------------------------------------------------------------------------------------

namespace Traced

variable {α β : Type} {fails : Attempt → Option QueryError}

/-- The computation makes the attempts up to the first that fails, and fails as this one does. -/
structure Follows (fails : Attempt → Option QueryError) (attempts : List Attempt)
    (computation : Traced α)
    : Prop where
  calls : computation.events = Attempt.callsUntil fails attempts
  failure : error? computation.outcome = attempts.findSome? fails

theorem Follows.pure (value : α) : (Pure.pure value : Traced α).Follows fails [] :=
  ⟨rfl, rfl⟩

/-- Compiling something calls no hook. -/
theorem Follows.ofExcept {attempt : Attempt} {outcome : Except QueryError α}
    (silent : attempt.call? = none) (same : fails attempt = error? outcome)
    : (Traced.ofExcept outcome).Follows fails [attempt] where
  calls := by simp [Traced.ofExcept, Attempt.callsUntil, silent]
  failure := by simp [Traced.ofExcept, same]

theorem Follows.call {attempt : Attempt} {event : HookEvent} {answer : Except String α}
    (called : attempt.call? = some event) (same : fails attempt = (error? answer).map .hook)
    : (Traced.call event answer).Follows fails [attempt] where
  calls := by simp [Traced.call, Attempt.callsUntil, called]
  failure := by cases answer <;> simp_all [Traced.call, error?, Except.mapError]

/-- Asks a hook, if it is installed. -/
def consult {ι : Type} (hook : Option ι) (event : HookEvent) (absent : α)
    (ask : ι → Except String α)
    : Traced α :=
  match hook with
  | none => Pure.pure absent
  | some installed => Traced.call event (ask installed)

/-- A hook is called if it is installed. -/
theorem Follows.consult {ι : Type} {hook : Option ι} {event : HookEvent} {absent : α}
    {ask : ι → Except String α} {attempt : Attempt} (called : attempt.call? = some event)
    (same : fails attempt = hook.bind fun installed => (error? (ask installed)).map .hook)
    : (consult hook event absent ask).Follows fails (if hook.isSome then [attempt] else []) := by
  cases hook with
  | none => exact .pure absent
  | some installed => exact .call called same

/-- The value of a hook that does not fail is its answer, or the one without a hook. -/
theorem consult_value {ι : Type} {hook : Option ι} {event : HookEvent} {absent value : α}
    {ask : ι → Except String α} (answered : (consult hook event absent ask).outcome = .ok value)
    : (hook.bind fun installed => (ask installed).toOption).getD absent = value := by
  cases hook with
  | none => simpa [Traced.consult] using answered
  | some installed =>
      cases answer : ask installed <;>
        simp_all [Traced.consult, Traced.call, Except.mapError, Except.toOption]

/-- After a failure no hook is called. -/
theorem events_bind_of_error {first : Traced α} {error : QueryError}
    (failed : first.outcome = .error error) (next : α → Traced β)
    : (first >>= next).events = first.events := by
  simp [Bind.bind, andThen, failed]

/-- One computation after the other calls the hooks that the attempts of both call, where those of the
second one matter only if the first succeeds. -/
theorem Follows.bind_calls {first : Traced α} {next : α → Traced β}
    {attempts others : List Attempt} (before : first.Follows fails attempts)
    (after
      : ∀ value, first.outcome = .ok value →
          (next value).events = Attempt.callsUntil fails others)
    : (first >>= next).events = Attempt.callsUntil fails (attempts ++ others) := by
  have failure := before.failure
  rw [Attempt.callsUntil_append, ← failure, ← before.calls]
  obtain ⟨events, outcome⟩ := first
  cases outcome with
  | error error => simp [Bind.bind, andThen, error?]
  | ok value => simp [Bind.bind, andThen, error?, after value rfl]

/-- One computation after the other makes the attempts of both. -/
theorem Follows.bind {first : Traced α} {next : α → Traced β} {attempts others : List Attempt}
    (before : first.Follows fails attempts)
    (after : ∀ value, first.outcome = .ok value → (next value).Follows fails others)
    : (first >>= next).Follows fails (attempts ++ others) where
  calls := before.bind_calls fun value succeeds => (after value succeeds).calls
  failure := by
    rw [outcome_bind, error?_bind fun value succeeds => (after value succeeds).failure,
      before.failure, List.findSome?_append]

/-- What is made of the value afterwards changes nothing. -/
theorem Follows.map {first : Traced α} {attempts : List Attempt} (change : α → β)
    (before : first.Follows fails attempts)
    : (first >>= fun value => Pure.pure (change value)).Follows fails attempts := by
  have follows := before.bind fun value _ => Follows.pure (change value)
  rwa [List.append_nil] at follows

end Traced

end TypedQuery
