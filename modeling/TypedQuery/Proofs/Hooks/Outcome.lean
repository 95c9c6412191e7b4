import TypedQuery.Hooks
import TypedQuery.Proofs.Fallible

/-! Outcomes of computations that call hooks. Forgetting the calls turns every such computation
into one that merely succeeds or fails, step by step. So whether it succeeds, and with what, can be
read off the outcomes of its steps.
-/

namespace TypedQuery

namespace Traced

variable {α β : Type}

/-- Leaving the value as it is leaves the computation as it is. -/
theorem map_id_eq (computation : Traced α) : id <$> computation = computation := by
  obtain ⟨events, outcome⟩ := computation
  cases outcome <;> simp [Functor.map, andThen, ofExcept]

/-- A step that calls no hook and succeeds adds nothing before the next step. -/
theorem pure_andThen (value : α) (next : α → Traced β) : pure value >>= next = next value := by
  simp [bind, pure, andThen, ofExcept]

/-- Three steps make the same calls in the same order, however they are grouped. -/
theorem andThen_assoc {γ : Type} (first : Traced α) (next : α → Traced β) (last : β → Traced γ)
    : first >>= next >>= last = first >>= fun value => next value >>= last := by
  obtain ⟨events, outcome⟩ := first
  cases outcome with
  | error error => rfl
  | ok value =>
      simp only [bind, andThen]
      cases (next value).outcome <;> simp [List.append_assoc]

instance : LawfulMonad Traced :=
  LawfulMonad.mk' Traced map_id_eq pure_andThen andThen_assoc

@[simp] theorem outcome_ofExcept (outcome : Except QueryError α)
    : (ofExcept outcome).outcome = outcome :=
  rfl

@[simp] theorem outcome_pure (value : α) : (pure value : Traced α).outcome = .ok value :=
  rfl

@[simp] theorem outcome_bind (first : Traced α) (next : α → Traced β)
    : (first >>= next).outcome = first.outcome >>= fun value => (next value).outcome := by
  obtain ⟨events, outcome⟩ := first
  cases outcome <;> rfl

/-- The outcome of a run over a list is the run over the outcomes, by induction on the list. -/
@[simp] theorem outcome_mapM (step : α → Traced β) (inputs : List α)
    : (inputs.mapM step).outcome = inputs.mapM (fun input => (step input).outcome) := by
  induction inputs with
  | nil => rfl
  | cons input rest ih => simp only [List.mapM_cons, outcome_bind, ih, outcome_pure]; rfl

end Traced

namespace Hooks

variable {α : Type}

/-- Without a preprocessor a node stays as it was sent. -/
theorem preprocess_of_none {hooks : Hooks α} (absent : hooks.preprocessor = none) (node : Node)
    : hooks.preprocess node = pure node := by
  simp [preprocess, absent]

/-- The predicate that stands in for a node; a provider that refuses supplies none. -/
def supplied? (hooks : Hooks α) (node : Node) : Option (Predicate α) :=
  (hooks.provide node).outcome.toOption.join

theorem supplied?_of_provide {hooks : Hooks α} {node : Node} {answer : Option (Predicate α)}
    (provided : (hooks.provide node).outcome = .ok answer)
    : hooks.supplied? node = answer := by
  simp [supplied?, provided, Except.toOption]

end Hooks

end TypedQuery
