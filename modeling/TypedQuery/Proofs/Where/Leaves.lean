import TypedQuery.Proofs.Clause.Acceptance
import TypedQuery.Proofs.Hooks.Walk
import TypedQuery.Proofs.Where.Composition

/-! The clauses of a where tree. Without hooks a tree compiles exactly if each of its clauses does, at every
depth. Else its error is that of the first clause that does not, from left to right and depth first, and
names this clause, also if it is inside of brackets that the fault is.
-/

namespace TypedQuery

-----------------------------------------------------------------------------------------
-- Faults inside of brackets
-----------------------------------------------------------------------------------------

/-- How a fault inside of a bracket shows outside of it: as it is, except that the tokens of a range are
counted outside first, so that what is invalid may be so for another reason. -/
inductive Fault.ShowsAs : Fault → Fault → Prop where
  | same {fault} : ShowsAs fault fault
  | invalid {within outside} : ShowsAs (.invalid within) (.invalid outside)

theorem Fault.ShowsAs.trans {within between outside : Fault} (first : within.ShowsAs between)
    (second : between.ShowsAs outside)
    : within.ShowsAs outside := by
  cases first with
  | same => exact second
  | invalid => cases second <;> exact .invalid

section Brackets

variable {schema : Schema} {owner inner : schema.Ty} {comparison : Comparison}
  {tokens : List Token} {fault : Fault}

/-- A comparison that cannot be made on the elements of a collection cannot be made on the collection. -/
theorem Target.predicate_elements_of_error {element : schema.Ty} {dotted path elementPath : String}
    {gather : schema.Item owner → List (schema.Item element)} {within : Target schema element}
    (fails : within.predicate comparison tokens elementPath = .error fault)
    : ∃ raised,
        (Target.elements dotted element gather elementPath within).predicate comparison tokens path
          = .error raised
        ∧ fault.ShowsAs raised := by
  rw [Target.predicate, fails]
  split
  · by_cases counted : comparison.accepts tokens.length = true
    · rw [Comparison.checkCount_eq_ok.mpr counted]
      exact ⟨fault, rfl, .same⟩
    · have judged := within.judged_predicate comparison tokens elementPath
      rw [fails] at judged
      rw [Comparison.checkCount, if_neg counted]
      cases judged with
      | invalid misplaced => exact ⟨_, rfl, .invalid⟩
      | unconvertible placed first =>
          exact absurd (.count (mt Comparison.accepts_iff.mpr counted)) placed
  · exact ⟨fault, rfl, .same⟩

/-- A comparison that cannot be made on a text that a path is made of cannot be made on the path, by
induction on the brackets. -/
theorem Schema.Encloses.exists_fault {path text : String}
    (encloses : schema.Encloses owner path inner text)
    (fails
      : (resolve schema inner text >>= fun target => target.predicate comparison tokens text)
        = .error fault)
    : ∃ raised,
        (resolve schema owner path >>= fun target => target.predicate comparison tokens path)
          = .error raised
        ∧ fault.ShowsAs raised := by
  induction encloses with
  | whole => exact ⟨fault, fails, .same⟩
  | bracketed bare words filled reached encloses ih =>
      obtain ⟨between, failsBetween, shows⟩ := ih fails
      rw [resolve_bracketed bare words filled reached]
      rcases bind_eq_error.mp failsBetween with unresolved | ⟨target, resolved, refused⟩
      · rw [unresolved]
        exact ⟨between, rfl, shows⟩
      · rw [resolved]
        obtain ⟨raised, failsOutside, showsOutside⟩ := Target.predicate_elements_of_error refused
        exact ⟨raised, failsOutside, shows.trans showsOutside⟩

end Brackets

-----------------------------------------------------------------------------------------
-- Leaves
-----------------------------------------------------------------------------------------

/-- Without hooks only the clauses of nodes are attempted, from left to right and depth first. By
induction on the walk. -/
theorem Hooks.Walk.eq_leavesAll {α : Type} {nodes : List Node} {attempts : List Attempt}
    (walk : ({} : Hooks α).Walk nodes attempts)
    : attempts = (Node.leavesAll nodes).map .clause := by
  induction walk with
  | nil => rfl
  | @cons node rest inner after descends goesOn within later =>
      have visit : ({} : Hooks α).visit node
          = (if node.isGroup then [] else [node.clause]).map Attempt.clause := by
        rw [apply_ite (List.map Attempt.clause)]
        rfl
      have below : ({} : Hooks α).below node = node.children.getD [] := rfl
      rw [below] at within
      rw [visit, within, later, Node.leavesAll, Node.leaves_eq, List.map_append, List.map_append]

namespace Where

variable {schema : Schema} {owner : schema.Ty} {nodes : List Node}

/-- Without hooks a tree fails as the first of its clauses that does. -/
theorem error?_compile (schema : Schema) (owner : schema.Ty) (nodes : List Node)
    : error? (compile schema owner {} nodes).outcome
      = (Node.leavesAll nodes).findSome? fun leaf => error? (leaf.compile schema owner) := by
  have adds : ({} : Hooks (schema.Item owner)).AddsNoGenerations := fun node => Nat.le_refl _
  obtain ⟨attempts, walk⟩ := adds.exists_walk nodes
  rw [(compile_follows adds walk).failure, walk.eq_leavesAll, List.findSome?_map]
  rfl

/-- Without hooks, a where tree compiles exactly if all of its clauses do, and else fails as the first of
its clauses that does not, counted from left to right and depth first. A clause fails with a fault of its
path, its comparison or its tokens, and its own context, even if it is the text in a bracket of its path
that cannot be resolved or compared for the elements there. -/
theorem compile_leaves (schema : Schema) (owner : schema.Ty) (nodes : List Node)
    : ((∃ predicate, (compile schema owner {} nodes).outcome = .ok predicate)
        ↔ ∀ leaf ∈ Node.leavesAll nodes, ∃ predicate, leaf.compile schema owner = .ok predicate)
      ∧ (∀ error,
          (compile schema owner {} nodes).outcome = .error error
          ↔ ∃ before leaf after,
              Node.leavesAll nodes = before ++ leaf :: after
              ∧ (∀ earlier ∈ before, ∃ predicate, earlier.compile schema owner = .ok predicate)
              ∧ leaf.compile schema owner = .error error)
      ∧ ∀ leaf : Clause,
          (∀ error, leaf.compile schema owner = .error error →
            ∃ fault, error = .faulty fault (some leaf.context))
          ∧ ∀ inner text fault context,
              schema.Encloses owner leaf.path inner text →
              Clause.compile schema inner { leaf with path := text }
                = .error (.faulty fault context) →
              ∃ raised,
                leaf.compile schema owner = .error (.faulty raised (some leaf.context))
                ∧ fault.ShowsAs raised := by
  refine ⟨?_, fun error => ?_, fun leaf => ⟨fun error fails => ?_, ?_⟩⟩
  · rw [← error?_eq_none, error?_compile, List.findSome?_eq_none_iff]
    exact forall₂_congr fun leaf _ => error?_eq_none
  · rw [← error?_eq_some, error?_compile, List.findSome?_eq_some_iff]
    simp only [error?_eq_some, error?_eq_none]
    constructor
    · rintro ⟨before, leaf, after, same, fails, succeed⟩
      exact ⟨before, leaf, after, same, succeed, fails⟩
    · rintro ⟨before, leaf, after, same, succeed, fails⟩
      exact ⟨before, leaf, after, same, fails, succeed⟩
  · obtain ⟨fault, -, same⟩ := Clause.compile_eq_error.mp fails
    exact ⟨fault, same⟩
  · intro inner text fault context encloses fails
    obtain ⟨within, made, same⟩ := Clause.compile_eq_error.mp fails
    cases same
    obtain ⟨raised, refused, shows⟩ := encloses.exists_fault made
    exact ⟨raised, Clause.compile_eq_error.mpr ⟨raised, refused, rfl⟩, shows⟩

/-- Orders of Bob, unless they led to orders that are too large, where nobody said how large. -/
def unclearSearch : List Node :=
  [(Node.leaf "customer" .equal ["Bob"]).joinedBy .or,
    (Node.group
      [Node.group [],
        (Node.leaf "followUps[lines[quantity]]" .greaterThan ["many"]).negated,
        Node.leaf "price" .equal ["3"]]).negated]

/-- The fault inside two brackets is found before the unknown property, and is told with the whole path. -/
theorem compile_leaves_unclearSearch
    : (compile Shop.schema .order {} unclearSearch).outcome
      = .error (.faulty (.unconvertible (some "many") .integer)
          (some ⟨"followUps[lines[quantity]]", .greaterThan, true⟩)) := by
  obtain ⟨-, fails_iff, leaf⟩ := compile_leaves Shop.schema .order unclearSearch
  let followUps : Clause := ⟨"followUps[lines[quantity]]", .greaterThan, [some "many"], true⟩
  have unconverted
      : Clause.compile Shop.schema .line { followUps with path := "quantity" }
        = .error (.faulty (.unconvertible (some "many") .integer)
            (some ⟨"quantity", .greaterThan, true⟩)) := by
    refine Clause.compile_eq_error.mpr ⟨_, ?_, rfl⟩
    rw [Shop.resolve_quantity]
    rfl
  obtain ⟨raised, fails, ⟨⟩⟩ :=
    (leaf followUps).2 .line "quantity" _ _ Shop.encloses_quantity unconverted
  refine (fails_iff _).mpr
    ⟨[⟨"customer", .equal, [some "Bob"], false⟩], followUps, [⟨"price", .equal, [some "3"], false⟩],
      by decide +kernel, ?_, fails⟩
  intro earlier member
  obtain rfl := List.mem_singleton.mp member
  exact exists_eq_ok (by decide +kernel)

end Where

end TypedQuery
