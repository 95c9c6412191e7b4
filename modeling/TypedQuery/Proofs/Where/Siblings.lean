import Mathlib.Data.Fin.Basic
import TypedQuery.Where.Compile

/-! What a list of siblings amounts to. The connectors between siblings have no precedence: the
siblings hold if one of them holds that nothing binds to the siblings before it, and every later
sibling that is bound to the one before it holds too.
-/

namespace TypedQuery

/-- What a sibling amounts to for an item, and its connector to the sibling after it. -/
structure Verdict where
  holds : Bool
  connector : Connector
deriving DecidableEq, Repr

/-- Some sibling holds that is the first or is joined to the one before it by "or", and every later
sibling that is joined to the one before it by "and" holds too. -/
def SiblingsHold (verdicts : List Verdict) : Prop :=
  ∃ start : Fin verdicts.length,
    verdicts[start].holds = true
    ∧ (start.val = 0 ∨ verdicts[start.val - 1].connector = .or)
    ∧ ∀ later : Fin verdicts.length,
        start < later
        → verdicts[later.val - 1].connector = .and
        → verdicts[later].holds = true

instance (verdicts : List Verdict) : Decidable (SiblingsHold verdicts) :=
  inferInstanceAs (Decidable (∃ _ : Fin verdicts.length, _))

-----------------------------------------------------------------------------------------
-- Siblings read from left to right
-----------------------------------------------------------------------------------------

/-- Every sibling holds that is joined by "and" to the one before it; `before` is the connector in
front of the first of them. -/
def BoundHold : (before : Connector) → List Verdict → Prop
  | _, [] => True
  | before, verdict :: rest =>
      (before = .and → verdict.holds = true) ∧ BoundHold verdict.connector rest

/-- Some sibling holds that is joined by "or" to the one before it, and so do the siblings bound
behind it. -/
def UnboundStart : (before : Connector) → List Verdict → Prop
  | _, [] => False
  | before, verdict :: rest =>
      before = .or ∧ verdict.holds = true ∧ BoundHold verdict.connector rest
      ∨ UnboundStart verdict.connector rest

/-- The bound siblings by their places, by induction on the list. -/
theorem boundHold_iff (before : Verdict) (rest : List Verdict)
    : BoundHold before.connector rest
      ↔ ∀ later : Fin rest.length,
          ((before :: rest).get later.castSucc).connector = .and → rest[later].holds = true := by
  induction rest generalizing before with
  | nil => simp [BoundHold]
  | cons verdict rest ih =>
      rw [BoundHold, ih]
      simp [Fin.forall_fin_succ]

/-- The start of an unbound run by its place, by induction on the list. -/
theorem unboundStart_iff (before : Verdict) (rest : List Verdict)
    : UnboundStart before.connector rest
      ↔ ∃ start : Fin rest.length,
          rest[start].holds = true
          ∧ ((before :: rest).get start.castSucc).connector = .or
          ∧ ∀ later : Fin rest.length,
              start < later
              → ((before :: rest).get later.castSucc).connector = .and
              → rest[later].holds = true := by
  induction rest generalizing before with
  | nil => simp [UnboundStart]
  | cons verdict rest ih =>
      rw [UnboundStart, ih, boundHold_iff, and_left_comm]
      simp [Fin.exists_fin_succ, Fin.forall_fin_succ]

/-- No sibling at all is a condition that never holds. -/
theorem not_siblingsHold_nil : ¬ SiblingsHold [] :=
  fun ⟨start, _⟩ => start.elim0

/-- Siblings hold from the first one on, or from a later one that nothing binds. -/
theorem siblingsHold_cons (first : Verdict) (rest : List Verdict)
    : SiblingsHold (first :: rest)
      ↔ first.holds = true ∧ BoundHold first.connector rest
        ∨ UnboundStart first.connector rest := by
  rw [boundHold_iff, unboundStart_iff]
  simp [SiblingsHold, Fin.exists_fin_succ, Fin.forall_fin_succ]

/-- The connector of the last sibling binds nothing, by induction on the siblings before it. -/
theorem boundHold_append_last (before : Connector) (verdicts : List Verdict) (holds : Bool)
    (left right : Connector)
    : BoundHold before (verdicts ++ [⟨holds, left⟩])
      ↔ BoundHold before (verdicts ++ [⟨holds, right⟩]) := by
  induction verdicts generalizing before with
  | nil => rfl
  | cons verdict rest ih => simp only [List.cons_append, BoundHold, ih]

/-- The connector of the last sibling starts nothing, by induction on the siblings before it. -/
theorem unboundStart_append_last (before : Connector) (verdicts : List Verdict) (holds : Bool)
    (left right : Connector)
    : UnboundStart before (verdicts ++ [⟨holds, left⟩])
      ↔ UnboundStart before (verdicts ++ [⟨holds, right⟩]) := by
  induction verdicts generalizing before with
  | nil => rfl
  | cons verdict rest ih =>
      simp only [List.cons_append, UnboundStart, ih,
        boundHold_append_last verdict.connector rest holds left right]

/-- Nothing depends on the connector of the last sibling. -/
theorem siblingsHold_append_last (verdicts : List Verdict) (holds : Bool)
    (left right : Connector)
    : SiblingsHold (verdicts ++ [⟨holds, left⟩]) ↔ SiblingsHold (verdicts ++ [⟨holds, right⟩]) := by
  cases verdicts with
  | nil => rw [List.nil_append, List.nil_append, siblingsHold_cons, siblingsHold_cons]; rfl
  | cons first rest =>
      rw [List.cons_append, List.cons_append, siblingsHold_cons, siblingsHold_cons,
        boundHold_append_last _ _ _ left right, unboundStart_append_last _ _ _ left right]

-----------------------------------------------------------------------------------------
-- Compiled siblings test for what they amount to
-----------------------------------------------------------------------------------------

namespace Where

variable {α : Type}

/-- What a compiled node amounts to for an item. -/
def Part.verdict (part : Part α) (item : α) : Verdict :=
  ⟨part.predicate.test item, part.connector⟩

/-- Joining from left to right reads the siblings as a whole: what came before counts as one
sibling. By induction on the parts that are still to be joined. -/
theorem joinOnto_test_iff (joined : Predicate α) (connector : Connector) (rest : List (Part α))
    (item : α)
    : (joinOnto joined connector rest).test item = true
      ↔ SiblingsHold (⟨joined.test item, connector⟩ :: rest.map (Part.verdict · item)) := by
  induction rest generalizing joined connector with
  | nil => simp [joinOnto, siblingsHold_cons, BoundHold, UnboundStart]
  | cons part rest ih =>
      rw [joinOnto, ih, siblingsHold_cons, siblingsHold_cons, List.map_cons, BoundHold,
        UnboundStart]
      -- Bound by "and" the part belongs to every run so far, by "or" it starts a run of its own.
      cases connector with
      | and => simp [Connector.join, Predicate.and, Part.verdict, and_assoc]
      | or => simp [Connector.join, Predicate.or, Part.verdict, or_and_right, or_assoc]

/-- Joined siblings hold of an item exactly if what they amount to, taken as siblings, holds. -/
theorem joinAll_test_iff (parts : List (Part α)) (item : α)
    : (joinAll parts).test item = true ↔ SiblingsHold (parts.map (Part.verdict · item)) := by
  cases parts with
  | nil => simp [joinAll, Predicate.constant, not_siblingsHold_nil]
  | cons part rest => exact joinOnto_test_iff part.predicate part.connector rest item

theorem joinAll_test (parts : List (Part α)) (item : α)
    : (joinAll parts).test item = decide (SiblingsHold (parts.map (Part.verdict · item))) := by
  rw [Bool.eq_iff_iff, joinAll_test_iff, decide_eq_true_iff]

end Where

@[simp] theorem Predicate.negatedIf_test {α : Type} (predicate : Predicate α) (negate : Bool)
    (item : α)
    : (predicate.negatedIf negate).test item = (negate ^^ predicate.test item) := by
  cases negate <;> simp [Predicate.negatedIf, Predicate.not]

end TypedQuery
