import TypedQuery.Proofs.Clause.Leaf
import TypedQuery.Proofs.Where.Meaning

/-! Clauses that can stand for one another, and what the negation of a clause is to its compiling. A clause
compiles with its negation exactly if it compiles without, and then keeps the items that it would not keep
otherwise.
-/

namespace TypedQuery

/-- Of two results either neither is a predicate, or both are and keep the same items. -/
inductive Interchangeable {ε α : Type} : Except ε (Predicate α) → Except ε (Predicate α) → Prop
  | refused {fault other} : Interchangeable (.error fault) (.error other)
  | accepted {one other} (same : ∀ item, one.test item = other.test item)
    : Interchangeable (.ok one) (.ok other)

namespace Interchangeable

variable {ε α : Type} {first second : Except ε (Predicate α)}

/-- Results that are predicates for the same reasons and then keep the same items. -/
theorem of_tests (accepts : (∃ one, first = .ok one) ↔ ∃ other, second = .ok other)
    (same
      : ∀ one other, first = .ok one → second = .ok other →
          ∀ item, one.test item = other.test item)
    : Interchangeable first second := by
  cases first with
  | ok one =>
      obtain ⟨other, rfl⟩ := accepts.mp ⟨one, rfl⟩
      exact .accepted (same one other rfl rfl)
  | error fault =>
      cases second with
      | ok other => cases (accepts.mpr ⟨other, rfl⟩).choose_spec
      | error fault => exact .refused

/-- What stands for a predicate is one, and keeps the same items. -/
theorem exists_ok {one : Predicate α} (alike : Interchangeable first second)
    (made : first = .ok one)
    : ∃ other, second = .ok other ∧ ∀ item, one.test item = other.test item := by
  cases alike with
  | refused => cases made
  | accepted same =>
      cases made
      exact ⟨_, rfl, same⟩

theorem symm (alike : Interchangeable first second) : Interchangeable second first := by
  cases alike with
  | refused => exact .refused
  | accepted same => exact .accepted fun item => (same item).symm

theorem trans {third : Except ε (Predicate α)} (alike : Interchangeable first second)
    (further : Interchangeable second third)
    : Interchangeable first third := by
  cases alike with
  | refused =>
      cases further
      exact .refused
  | accepted same =>
      cases further with
      | accepted still => exact .accepted fun item => (same item).trans (still item)

/-- Results that each have a counterpart in the other one if they are predicates. -/
theorem of_counterparts
    (forth
      : ∀ one, first = .ok one →
          ∃ other, second = .ok other ∧ ∀ item, one.test item = other.test item)
    (back
      : ∀ other, second = .ok other →
          ∃ one, first = .ok one ∧ ∀ item, other.test item = one.test item)
    : Interchangeable first second := by
  cases first with
  | ok one =>
      obtain ⟨other, rfl, same⟩ := forth one rfl
      exact .accepted same
  | error fault =>
      cases second with
      | ok other => cases (back other rfl).choose_spec.1
      | error fault => exact .refused

end Interchangeable

namespace Clause

variable {schema : Schema} {owner : schema.Ty} {clause other : Clause} {item : schema.Item owner}

/-- The clause is accepted. -/
def Compiles (schema : Schema) (owner : schema.Ty) (clause : Clause) : Prop :=
  ∃ predicate, clause.compile schema owner = .ok predicate

theorem compiles_congr
    (alike : Interchangeable (clause.compile schema owner) (other.compile schema owner))
    : clause.Compiles schema owner ↔ other.Compiles schema owner := by
  constructor
  · rintro ⟨predicate, made⟩
    obtain ⟨counterpart, makes, -⟩ := alike.exists_ok made
    exact ⟨counterpart, makes⟩
  · rintro ⟨predicate, made⟩
    obtain ⟨counterpart, makes, -⟩ := alike.symm.exists_ok made
    exact ⟨counterpart, makes⟩

theorem holds_congr
    (alike : Interchangeable (clause.compile schema owner) (other.compile schema owner))
    : clause.holds schema owner item = other.holds schema owner item := by
  unfold holds
  generalize clause.compile schema owner = first, other.compile schema owner = second at alike ⊢
  cases alike with
  | refused => rfl
  | accepted same => exact same item

theorem holds_of_compile {predicate : Predicate (schema.Item owner)}
    (made : clause.compile schema owner = .ok predicate)
    : clause.holds schema owner item = predicate.test item := by
  rw [holds, made]

theorem holds_iff
    : clause.holds schema owner item = true
      ↔ ∃ predicate, clause.compile schema owner = .ok predicate
          ∧ predicate.test item = true := by
  unfold holds
  cases clause.compile schema owner <;> simp

theorem compiles_of_holds (kept : clause.holds schema owner item = true)
    : clause.Compiles schema owner := by
  obtain ⟨predicate, made, -⟩ := holds_iff.mp kept
  exact ⟨predicate, made⟩

/-- Clauses can stand for one another if they are accepted alike and then hold of the same items. -/
theorem interchangeable_of_holds
    (accepts : clause.Compiles schema owner ↔ other.Compiles schema owner)
    (same
      : clause.Compiles schema owner → other.Compiles schema owner →
          ∀ item, clause.holds schema owner item = true ↔ other.holds schema owner item = true)
    : Interchangeable (clause.compile schema owner) (other.compile schema owner) := by
  refine .of_tests accepts fun one counterpart made makes item => ?_
  rw [← holds_of_compile made, ← holds_of_compile makes, Bool.eq_iff_iff]
  exact same ⟨one, made⟩ ⟨counterpart, makes⟩ item

/-- The clause without its negation. -/
def unnegated (clause : Clause) : Clause :=
  { clause with negate := false }

/-- The negation of a clause is put on top of what the clause compiles to without it. -/
theorem compile_eq_ok_iff_unnegated {predicate : Predicate (schema.Item owner)}
    : clause.compile schema owner = .ok predicate
      ↔ ∃ positive, clause.unnegated.compile schema owner = .ok positive
          ∧ positive.negatedIf clause.negate = predicate := by
  simp only [compile_eq_ok, unnegated]
  constructor
  · rintro ⟨target, positive, leads, made, rfl⟩
    exact ⟨positive, ⟨target, positive, leads, made, rfl⟩, rfl⟩
  · rintro ⟨_, ⟨target, positive, leads, made, rfl⟩, rfl⟩
    exact ⟨target, positive, leads, made, rfl⟩

/-- A clause compiles exactly if it does without its negation. -/
theorem compiles_unnegated
    : clause.unnegated.Compiles schema owner ↔ clause.Compiles schema owner := by
  constructor
  · rintro ⟨positive, made⟩
    exact ⟨_, compile_eq_ok_iff_unnegated.mpr ⟨positive, made, rfl⟩⟩
  · rintro ⟨predicate, made⟩
    obtain ⟨positive, made, -⟩ := compile_eq_ok_iff_unnegated.mp made
    exact ⟨positive, made⟩

/-- A clause that compiles holds of an item exactly if it does not when it is negated the other way. -/
theorem holds_negate (compiles : clause.Compiles schema owner) (item : schema.Item owner)
    : Clause.holds schema owner { clause with negate := !clause.negate } item
      = !clause.holds schema owner item := by
  obtain ⟨positive, made⟩ := compiles_unnegated.mpr compiles
  have compiled (negate : Bool)
      : Clause.compile schema owner { clause with negate } = .ok (positive.negatedIf negate) :=
    compile_eq_ok_iff_unnegated.mpr ⟨positive, made, rfl⟩
  have given : clause.compile schema owner = .ok (positive.negatedIf clause.negate) :=
    compiled clause.negate
  rw [holds_of_compile (compiled _), holds_of_compile given]
  simp only [Predicate.negatedIf_test, Bool.not_xor]

end Clause

end TypedQuery
