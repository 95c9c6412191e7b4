import TypedQuery.Arguments.Apply
import TypedQuery.Proofs.Hooks.Walk

/-! The room for groups that edits put below a where tree. Compiling refuses a tree that outgrows what
the preprocessor declares. With more room than that the same hooks are called and the same comes out,
unless it was this refusal; and for a tree whose walk ends there is room enough.
-/

namespace TypedQuery

-----------------------------------------------------------------------------------------
-- Computations that differ in one error only
-----------------------------------------------------------------------------------------

namespace Traced

variable {α β : Type} {error : QueryError}

/-- The other computation calls the same hooks and comes to the same, unless this one ends with the
error. -/
def SameUnless (error : QueryError) (computation other : Traced α) : Prop :=
  computation.outcome ≠ .error error → other = computation

theorem SameUnless.refl (computation : Traced α) : computation.SameUnless error computation :=
  fun _ => rfl

/-- The middle computation does not end with the error either, since it is the same. -/
theorem SameUnless.trans {first middle last : Traced α} (before : first.SameUnless error middle)
    (after : middle.SameUnless error last)
    : first.SameUnless error last := by
  intro spared
  have same := before spared
  rw [← same]
  exact after (same ▸ spared)

/-- One computation after the other ends with the error if the first does, and else if the second does
on its value. -/
theorem SameUnless.bind {first other : Traced α} {next after : α → Traced β}
    (before : first.SameUnless error other)
    (later : ∀ value, (next value).SameUnless error (after value))
    : (first >>= next).SameUnless error (other >>= after) := by
  intro spared
  rw [outcome_bind] at spared
  rw [before fun fails => spared (by rw [fails, error_bind])]
  obtain ⟨events, outcome⟩ := first
  cases outcome with
  | error raised => rfl
  | ok value => simp only [Bind.bind, andThen, later value spared]

/-- What is made of the value afterwards changes nothing. -/
theorem SameUnless.map {first other : Traced α} (before : first.SameUnless error other)
    (change : α → β)
    : (first >>= fun value => Pure.pure (change value)).SameUnless error
        (other >>= fun value => Pure.pure (change value)) :=
  before.bind fun value => .refl (Pure.pure (change value))

/-- Runs over a list differ in one error only if their steps do, by induction on the list. -/
theorem SameUnless.mapM {step other : α → Traced β}
    (each : ∀ input, (step input).SameUnless error (other input)) (inputs : List α)
    : (inputs.mapM step).SameUnless error (inputs.mapM other) := by
  induction inputs with
  | nil => exact .refl _
  | cons input rest ih =>
      rw [List.mapM_cons, List.mapM_cons]
      exact (each input).bind fun value => ih.map (value :: ·)

end Traced

-----------------------------------------------------------------------------------------
-- Nodes with more room
-----------------------------------------------------------------------------------------

namespace Where

variable {schema : Schema} {owner : schema.Ty} {hooks : Hooks (schema.Item owner)}

/-- One level more leaves a node as it is compiled, unless there was no room for it, by induction on the
levels: a group is compiled with one level less. -/
theorem compileNode_succ (depth : Nat) (received : Node)
    : (compileNode schema owner hooks depth received).SameUnless unboundedGrowth
        (compileNode schema owner hooks (depth + 1) received) := by
  unfold compileNode
  refine Traced.SameUnless.bind (.refl _) fun node => .bind (.refl _) fun answer => ?_
  cases answer with
  | some predicate => exact .refl _
  | none =>
      cases node.children with
      | none => exact .refl _
      | some children =>
          cases depth with
          | zero => exact fun spared => absurd rfl spared
          | succ depth => exact (Traced.SameUnless.mapM (compileNode_succ depth) children).map _

/-- So do more levels, one after the other. -/
theorem compileNode_of_le {depth room : Nat} (more : depth ≤ room) (received : Node)
    : (compileNode schema owner hooks depth received).SameUnless unboundedGrowth
        (compileNode schema owner hooks room received) := by
  induction more with
  | refl => exact .refl _
  | step _ ih => exact ih.trans (compileNode_succ _ received)

/-- Nodes whose walk ends follow it with any room from some level on, by induction on the walk. -/
theorem exists_depth_follows {nodes : List Node} {attempts : List Attempt}
    (walk : hooks.Walk nodes attempts)
    : ∃ enough, ∀ depth, enough ≤ depth →
        (nodes.mapM (compileNode schema owner hooks depth)).Follows
          (Attempt.failure? schema owner hooks) attempts := by
  induction walk with
  | nil =>
      refine ⟨0, fun depth _ => ?_⟩
      rw [List.mapM_nil]
      exact .pure []
  | cons descends goesOn within after =>
      obtain ⟨inside, within⟩ := within
      obtain ⟨beside, after⟩ := after
      refine ⟨max (inside + 1) beside, fun depth more => ?_⟩
      obtain ⟨deep, long⟩ := Nat.max_le.mp more
      obtain ⟨smaller, rfl⟩ := Nat.exists_eq_add_of_le' (Nat.le_trans (Nat.le_add_left 1 _) deep)
      rw [List.mapM_cons]
      refine Traced.Follows.bind ?_ fun part _ => (after _ long).map _
      exact compileNode_follows descends (within smaller (Nat.le_of_succ_le_succ deep))

end Where

-----------------------------------------------------------------------------------------
-- Hooks that may add more levels
-----------------------------------------------------------------------------------------

namespace Hooks

variable {α : Type}

/-- The hooks with a preprocessor that declares other levels, and makes the same edits. -/
def growing (hooks : Hooks α) (levels : Nat) : Hooks α :=
  { hooks with
    preprocessor := hooks.preprocessor.map fun preprocessor =>
      { preprocessor with growth := levels } }

variable {hooks : Hooks α} {levels : Nat}

theorem preprocess_growing : (hooks.growing levels).preprocess = hooks.preprocess := by
  funext node
  unfold preprocess growing
  cases hooks.preprocessor <;> rfl

theorem provide_growing : (hooks.growing levels).provide = hooks.provide :=
  rfl

theorem sortKey_growing : (hooks.growing levels).sortKey = hooks.sortKey :=
  rfl

theorem growing_of_none (absent : hooks.preprocessor = none) : hooks.growing levels = hooks := by
  obtain ⟨preprocessor, provider, sorter⟩ := hooks
  cases absent
  rfl

theorem growth_growing {preprocessor : Preprocessor}
    (installed : hooks.preprocessor = some preprocessor)
    : (hooks.growing levels).growth = levels := by
  simp [growth, growing, installed]

end Hooks

namespace Where

variable {schema : Schema} {owner : schema.Ty} {hooks : Hooks (schema.Item owner)} {levels : Nat}

/-- What is declared does not matter to nodes with a given room, by induction on it. -/
theorem compileNode_growing (depth : Nat)
    : compileNode schema owner (hooks.growing levels) depth
      = compileNode schema owner hooks depth := by
  induction depth with
  | zero =>
      funext received
      simp only [compileNode, Hooks.preprocess_growing, Hooks.provide_growing]
  | succ depth deeper =>
      funext received
      simp only [compileNode, Hooks.preprocess_growing, Hooks.provide_growing, deeper]

/-- A preprocessor that declares more levels leaves a where tree as it is compiled, with the same calls
of hooks, unless the tree outgrew what it declared. -/
theorem compile_growing (more : hooks.growth ≤ levels) (nodes : List Node)
    : (compile schema owner hooks nodes).SameUnless unboundedGrowth
        (compile schema owner (hooks.growing levels) nodes) := by
  cases installed : hooks.preprocessor with
  | none =>
      rw [Hooks.growing_of_none installed]
      exact .refl _
  | some preprocessor =>
      simp only [compile, Hooks.growth_growing installed, compileNode_growing]
      exact (Traced.SameUnless.mapM (compileNode_of_le (Nat.add_le_add_left more _)) nodes).map _

/-- A where tree whose walk ends follows it if the preprocessor declares enough levels. Then the only
errors are those of hooks and clauses. -/
theorem exists_growth_follows {nodes : List Node} {attempts : List Attempt}
    (walk : hooks.Walk nodes attempts)
    : ∃ enough, ∀ levels, enough ≤ levels →
        (compile schema owner (hooks.growing levels) nodes).Follows
          (Attempt.failure? schema owner hooks) attempts := by
  cases installed : hooks.preprocessor with
  | none =>
      have adds : hooks.AddsNoGenerations := fun node => by simp [Hooks.edited, installed]
      refine ⟨0, fun levels _ => ?_⟩
      rw [Hooks.growing_of_none installed]
      exact compile_follows adds walk
  | some preprocessor =>
      obtain ⟨enough, follows⟩ := exists_depth_follows walk
      refine ⟨enough, fun levels more => ?_⟩
      simp only [compile, Hooks.growth_growing installed, compileNode_growing]
      exact (follows _ (Nat.le_add_left_of_le more)).map _

end Where

namespace Order

variable {schema : Schema} {owner : schema.Ty} {hooks : Hooks (schema.Item owner)} {levels : Nat}

/-- Order keys do not come to a preprocessor, by induction on them. -/
theorem compileKeys_growing (primary : Bool) (keys : List OrderKey)
    : compileKeys schema owner (hooks.growing levels) primary keys
      = compileKeys schema owner hooks primary keys := by
  induction keys generalizing primary with
  | nil => rfl
  | cons key rest ih => simp only [compileKeys, compileKey, Hooks.sortKey_growing, ih]

theorem compile_growing (keys : List OrderKey)
    : compile schema owner (hooks.growing levels) keys = compile schema owner hooks keys := by
  simp only [compile, compileKeys_growing]

end Order

namespace Arguments

variable {schema : Schema} {owner : schema.Ty} {hooks : Hooks (schema.Item owner)} {levels : Nat}
  {σ : Type} [QuerySource σ (schema.Item owner)]

theorem applyWhere_growing (more : hooks.growth ≤ levels) (arguments : Arguments) (source : σ)
    : (applyWhere schema owner arguments hooks source).SameUnless Where.unboundedGrowth
        (applyWhere schema owner arguments (hooks.growing levels) source) := by
  unfold applyWhere
  cases arguments.nodes with
  | none => exact .refl _
  | some nodes => exact (Where.compile_growing more nodes).map _

/-- Arguments applied with a preprocessor that declares more levels come to the same, with the same calls
of hooks, unless their where tree outgrew what it declared. -/
theorem apply_growing (more : hooks.growth ≤ levels) (arguments : Arguments)
    (options : ArgumentOptions) (source : σ)
    : (apply schema owner arguments hooks options source).SameUnless Where.unboundedGrowth
        (apply schema owner arguments (hooks.growing levels) options source) := by
  unfold apply
  split
  · exact .refl _
  · refine .bind (.refl _) fun identified => ?_
    refine (applyWhere_growing more arguments identified).bind fun filtered => ?_
    simp only [applyOrder, Order.compile_growing]
    exact .refl _

end Arguments

end TypedQuery
