import TypedQuery.Proofs.Clause.Acceptance
import TypedQuery.Proofs.Hooks.Walk
import TypedQuery.Proofs.Order.ByValues

/-! Faults that arise when arguments are compiled, and those that never do. Some steps guard against what
the checks before them do not let through: names that run out before one leads to a property, a collection
without a bracket, a range without two bounds, an operator that no comparison of single values stands for.
No clause, no where tree and no order is ever refused for such a reason. Nor is a value missing where items
are ordered by one.
-/

namespace TypedQuery

-----------------------------------------------------------------------------------------
-- Faults that arise
-----------------------------------------------------------------------------------------

/-- The ways in which a path turns out not to lead to what is asked for. -/
inductive PathFault.Arises : PathFault → Prop
  | malformed (flaw : PathFlaw) : Arises (.malformed flaw)
  | unknownProperty (segment : String) : Arises (.unknownProperty segment)
  | insideScalar (segment : String) (kind : Kind) : Arises (.insideScalar segment kind)
  | notCollection (segment : String) : Arises (.notCollection segment)
  | endsAtObject (segment : String) : Arises (.endsAtObject segment)
  | endsAtCollection (segment : String) : Arises (.endsAtCollection segment)
  | orderByCollection : Arises .orderByCollection

/-- The ways in which a comparison turns out not to go with a value or with its operands. -/
inductive OperandFault.Arises : OperandFault → Prop
  | notApplicable (comparison : Comparison) (family : Family)
    : Arises (.notApplicable comparison family)
  | wrongCount (comparison : Comparison) (count : Nat) : Arises (.wrongCount comparison count)
  | nullOperand (comparison : Comparison) : Arises (.nullOperand comparison)

inductive Fault.Arises : Fault → Prop
  | unresolved (typeName path : String) {fault : PathFault} (arises : fault.Arises)
    : Arises (.unresolved typeName path fault)
  | invalid {fault : OperandFault} (arises : fault.Arises) : Arises (.invalid fault)
  | unconvertible (token : Option String) (target : Kind) : Arises (.unconvertible token target)

/-- The errors of compiling: faults that arise, maybe with their clause, and refusals of hooks, which are
in the words of the hook. -/
inductive QueryError.Arises : QueryError → Prop
  | faulty {fault : Fault} (context : Option ClauseContext) (arises : fault.Arises)
    : Arises (.faulty fault context)
  | hook (message : String) : Arises (.hook message)

-----------------------------------------------------------------------------------------
-- Paths
-----------------------------------------------------------------------------------------

section Paths

variable {schema : Schema} {owner : schema.Ty} {raw : String} {path : Path} {fault : Fault}
  {descend : (element : schema.Ty) → Except Fault (String × Target schema element)}

/-- Names never run out before one of them leads to a property: after the last one nothing is followed.
And a collection is entered only if the path has a bracket. By induction on the names. -/
theorem Fault.arises_of_followSegments {names : List String} (named : names ≠ [])
    (within
      : path.isCollection = true →
        ∀ element fault, descend element = .error fault → fault.Arises)
    (fails : followSegments schema raw path descend owner names = .error fault)
    : fault.Arises := by
  induction names generalizing owner with
  | nil => exact absurd rfl named
  | cons name rest ih =>
      unfold followSegments at fails
      dsimp only at fails
      split at fails
      · cases fails
        exact .unresolved _ _ (.unknownProperty _)
      · split at fails
        · cases fails
          exact .unresolved _ _ (.insideScalar _ _)
        · split at fails <;> cases fails
          exact .unresolved _ _ (.notCollection _)
      · split at fails
        · next further => exact ih (by simpa using further) (map_eq_error.mp fails)
        · split at fails <;> cases fails
          · exact .unresolved _ _ (.notCollection _)
          · exact .unresolved _ _ (.endsAtObject _)
      · split at fails
        · next further => exact ih (by simpa using further) (map_eq_error.mp fails)
        · split at fails <;> cases fails
          · exact .unresolved _ _ (.notCollection _)
          · exact .unresolved _ _ (.endsAtObject _)
      · split at fails
        · next last => exact within (Bool.and_eq_true_iff.mp last).2 _ _ (map_eq_error.mp fails)
        · cases fails
          exact .unresolved _ _ (.endsAtCollection _)

/-- By induction on the length of the path: what is in its bracket is shorter. -/
theorem Fault.arises_of_resolve {schema : Schema} {owner : schema.Ty} {raw : String} {fault : Fault}
    (fails : resolve schema owner raw = .error fault)
    : fault.Arises := by
  rw [resolve_eq] at fails
  split at fails
  · cases fails
    exact .unresolved _ _ (.malformed _)
  · next path parsed =>
    refine arises_of_followSegments (Path.isWritable_of_parse parsed).1.named ?_ fails
    intro collection element fault descends
    obtain ⟨elementPath, bracketed⟩ := Option.isSome_iff_exists.mp collection
    rw [descendInto, bracketed] at descends
    have shorter : elementPath.length < raw.length := Path.element_length_lt parsed bracketed
    exact arises_of_resolve (map_eq_error.mp descends)
termination_by raw.length

end Paths

-----------------------------------------------------------------------------------------
-- Comparisons
-----------------------------------------------------------------------------------------

section Comparisons

variable {comparison : Comparison} {fault : Fault}

theorem Fault.arises_of_checkFamily {family : Family}
    (fails : comparison.checkFamily family = .error fault)
    : fault.Arises := by
  unfold Comparison.checkFamily at fails
  split at fails <;> cases fails
  exact .invalid (.notApplicable _ _)

theorem Fault.arises_of_checkCount {count : Nat}
    (fails : comparison.checkCount count = .error fault)
    : fault.Arises := by
  unfold Comparison.checkCount at fails
  split at fails <;> cases fails
  exact .invalid (.wrongCount _ _)

/-- The check for a single operand fails as that of the family, where the comparison takes one. -/
theorem Fault.arises_of_checkSingle {family : Family} (arity : comparison.arity = .single)
    (fails : comparison.checkSingle family = .error fault)
    : fault.Arises := by
  rw [Comparison.checkSingle, if_pos arity] at fails
  exact arises_of_checkFamily (bind_pure_eq_error.mp fails)

theorem Fault.arises_of_requireText {token : Token}
    (fails : comparison.requireText token = .error fault)
    : fault.Arises := by
  cases token with
  | some text => cases fails
  | none =>
      cases fails
      exact .invalid (.nullOperand _)

theorem Fault.arises_of_convert {kind : Kind} {nullable : Bool} {token : Token}
    (fails : kind.convert nullable token = .error fault)
    : fault.Arises := by
  obtain ⟨rfl, -⟩ := Kind.convert_eq_error.mp fails
  exact .unconvertible _ _

theorem Fault.arises_of_convertAll {kind : Kind} {nullable : Bool} {tokens : List Token}
    (fails : kind.convertAll nullable tokens = .error fault)
    : fault.Arises := by
  obtain ⟨token, rfl, -⟩ := Kind.convertAll_eq_error.mp fails
  exact .unconvertible _ _

/-- A comparison that takes a single operand is a search, a pattern or a comparison of values: the
operators leave none out. -/
theorem Comparison.operator_of_single (arity : comparison.arity = .single)
    : (∃ op, comparison.textOp? = some op)
      ∨ comparison = .like
      ∨ comparison.textOp? = none ∧ comparison ≠ .like ∧ ∃ op, comparison.compareOp? = some op := by
  cases comparison
  case isIn | notIn | between => cases arity
  all_goals simp [textOp?, compareOp?]

variable {α : Type} {value : ReadValue α} {tokens : List Token}

theorem Fault.arises_of_single (arity : comparison.arity = .single)
    (fails : value.single comparison tokens = .error fault)
    : fault.Arises := by
  rw [ReadValue.single] at fails
  rcases bind_eq_error.mp fails with unsuited | ⟨_, -, fails⟩
  · exact arises_of_checkSingle arity unsuited
  rcases bind_eq_error.mp fails with miscounted | ⟨_, -, fails⟩
  · exact arises_of_checkCount miscounted
  rcases Comparison.operator_of_single arity with
    ⟨op, searches⟩ | rfl | ⟨plain, unlike, op, compares⟩
  · simp only [searches] at fails
    exact arises_of_requireText (bind_pure_eq_error.mp fails)
  · simp only [Comparison.textOp?, if_true] at fails
    exact arises_of_requireText (bind_pure_eq_error.mp fails)
  · simp only [plain, unlike, compares, if_false] at fails
    exact arises_of_convert (bind_pure_eq_error.mp fails)

/-- The tokens of a range have been counted before they are taken for its bounds. -/
theorem Fault.arises_of_predicate
    (fails : value.predicate comparison tokens = .error fault)
    : fault.Arises := by
  unfold ReadValue.predicate at fails
  rcases bind_eq_error.mp fails with unsuited | ⟨_, -, fails⟩
  · exact arises_of_checkFamily unsuited
  cases comparison
  case isIn | notIn => exact arises_of_convertAll (bind_pure_eq_error.mp fails)
  case between =>
    rcases bind_eq_error.mp fails with miscounted | ⟨_, counted, fails⟩
    · exact arises_of_checkCount miscounted
    rcases bind_eq_error.mp fails with unconverted | ⟨operands, converted, fails⟩
    · exact arises_of_convertAll unconverted
    have two : tokens.length = 2 := Comparison.accepts_iff.mp (Comparison.checkCount_eq_ok.mp counted)
    have length := (Kind.convertAll_eq_ok.mp converted).length_eq
    obtain ⟨low, high, rfl⟩ := List.length_eq_two.mp (length.symm.trans two)
    cases fails
  all_goals exact arises_of_single rfl fails

/-- By induction on the brackets of the path. -/
theorem Fault.arises_of_target {schema : Schema} {owner : schema.Ty} {target : Target schema owner}
    {path : String} (fails : target.predicate comparison tokens path = .error fault)
    : fault.Arises := by
  induction target generalizing path with
  | value kind nullable read => exact arises_of_predicate fails
  | elements dotted element gather elementPath inner ih =>
      rw [Target.predicate] at fails
      split at fails
      · rcases bind_eq_error.mp fails with miscounted | ⟨_, -, fails⟩
        · exact arises_of_checkCount miscounted
        · exact ih (bind_pure_eq_error.mp fails)
      · exact ih (bind_pure_eq_error.mp fails)

end Comparisons

-----------------------------------------------------------------------------------------
-- Clauses, where trees and orders
-----------------------------------------------------------------------------------------

section Compiling

variable {schema : Schema} {owner : schema.Ty} {hooks : Hooks (schema.Item owner)}
  {error : QueryError}

theorem Clause.arises_of_compile {clause : Clause}
    (fails : clause.compile schema owner = .error error)
    : error.Arises := by
  obtain ⟨fault, failed, rfl⟩ := Clause.compile_eq_error.mp fails
  refine .faulty _ ?_
  rcases bind_eq_error.mp failed with unresolved | ⟨target, -, unmade⟩
  · exact Fault.arises_of_resolve unresolved
  · exact Fault.arises_of_target unmade

theorem Order.arises_of_propertyKey {key : OrderKey}
    (fails : propertyKey schema owner key = .error error)
    : error.Arises := by
  unfold propertyKey at fails
  split at fails
  · next fault unresolved =>
    cases fails
    exact .faulty _ (Fault.arises_of_resolve (map_eq_error.mp unresolved))
  · split at fails <;> cases fails
    exact .faulty _ (.unresolved _ _ .orderByCollection)

/-- A computation that follows attempts fails as one of them does. -/
theorem QueryError.arises_of_follows {α : Type} {computation : Traced α} {attempts : List Attempt}
    (follows : computation.Follows (Attempt.failure? schema owner hooks) attempts)
    (fails : computation.outcome = .error error)
    : error.Arises := by
  have failed : attempts.findSome? (Attempt.failure? schema owner hooks) = some error :=
    follows.failure ▸ error?_eq_some.mpr fails
  obtain ⟨attempt, -, failed⟩ := List.exists_of_findSome?_eq_some failed
  cases attempt with
  | clause clause => exact Clause.arises_of_compile (error?_eq_some.mp failed)
  | property key => exact Order.arises_of_propertyKey (error?_eq_some.mp failed)
  | preprocess | provide | sort =>
      obtain ⟨message, rfl⟩ := Attempt.hook_of_failure? rfl failed
      exact .hook message

/-- By induction on the depth. A tree that edits make too high is refused as by a hook. -/
theorem Where.arises_of_compileNode {depth : Nat} {received : Node}
    (fails : (compileNode schema owner hooks depth received).outcome = .error error)
    : error.Arises := by
  induction depth using Nat.strongRecOn generalizing received with
  | _ depth ih =>
      unfold compileNode at fails
      simp only [Traced.outcome_bind, bind_eq_error] at fails
      rcases fails with refused | ⟨node, -, refused | ⟨answer, -, fails⟩⟩
      · exact QueryError.arises_of_follows (hooks.preprocess_follows received) refused
      · exact QueryError.arises_of_follows (hooks.provide_follows node) refused
      · cases answer with
        | some predicate => cases fails
        | none =>
            cases nested : node.children with
            | none =>
                simp only [nested, Traced.outcome_bind] at fails
                exact Clause.arises_of_compile (bind_pure_eq_error.mp fails)
            | some children =>
                cases depth with
                | zero =>
                    simp only [nested] at fails
                    cases fails
                    exact .hook _
                | succ depth =>
                    simp only [nested, Traced.outcome_bind, Traced.outcome_mapM] at fails
                    obtain ⟨_, child, _, -, -, unmade⟩ :=
                      mapM_eq_error.mp (bind_pure_eq_error.mp fails)
                    exact ih depth depth.lt_succ_self unmade

theorem Where.arises_of_compile {nodes : List Node}
    (fails : (compile schema owner hooks nodes).outcome = .error error)
    : error.Arises := by
  simp only [compile, Traced.outcome_bind, Traced.outcome_mapM] at fails
  obtain ⟨_, node, _, -, -, unmade⟩ := mapM_eq_error.mp (bind_pure_eq_error.mp fails)
  exact arises_of_compileNode unmade

theorem Order.arises_of_compile {keys : List OrderKey}
    (fails : (compile schema owner hooks keys).outcome = .error error)
    : error.Arises :=
  QueryError.arises_of_follows (compile_follows keys) fails

end Compiling

-----------------------------------------------------------------------------------------
-- Reasons
-----------------------------------------------------------------------------------------

/-- The reason that an error states. A token that denotes no value is refused without one, and a hook
refuses in its own words. -/
def QueryError.reason? : QueryError → Option String
  | .faulty (.unresolved _ _ fault) _ => some fault.message
  | .faulty (.invalid fault) _ => some fault.message
  | .faulty (.unconvertible _ _) _ => none
  | .configuration _ fault => some fault.message
  | .hook _ => none

/-- The reasons of refusals that stand behind other checks. The last one is that of any comparison, under
whatever name. -/
inductive IsGuard : String → Prop
  | endsEarly : IsGuard "path ends before selecting a property"
  | noElementSelector : IsGuard "collection path has no element selector"
  | missingBounds : IsGuard "between requires a lower and an upper bound"
  | notSingleValue (name : String) : IsGuard (name ++ " is not a single-value comparison")

/-- The last ten characters of a text, the very last one first. Names stand in the middle of a reason or
at its start, so reasons can be told apart at their end. -/
def ending (text : String) : List Char :=
  text.toList.reverse.take 10

theorem ending_append (front : String) {back : String} (long : 10 ≤ back.length)
    : ending (front ++ back) = ending back := by
  rw [ending, String.toList_append, List.reverse_append, List.take_append_of_le_length]
  · rfl
  · rwa [List.length_reverse, String.length_toList]

def guardEndings : List (List Char) :=
  ["a property", "t selector", "pper bound", "comparison"].map ending

theorem IsGuard.ending_mem {reason : String} (guard : IsGuard reason)
    : ending reason ∈ guardEndings := by
  cases guard with
  | endsEarly | noElementSelector | missingBounds => decide
  | notSingleValue name =>
      rw [ending_append name (by decide)]
      decide

theorem not_isGuard_of_ending {reason : String} (other : ending reason ∉ guardEndings)
    : ¬ IsGuard reason :=
  fun guard => other guard.ending_mem

theorem not_isGuard_append (front : String) {back : String} (long : 10 ≤ back.length)
    (other : ending back ∉ guardEndings)
    : ¬ IsGuard (front ++ back) :=
  not_isGuard_of_ending (ending_append front long ▸ other)

theorem PathFault.Arises.not_isGuard {fault : PathFault} (arises : fault.Arises)
    : ¬ IsGuard fault.message := by
  cases arises with
  | malformed flaw =>
      apply not_isGuard_of_ending
      cases flaw <;> decide
  | unknownProperty segment =>
      -- What comes after the name is too short to tell, but it ends as no guard does.
      apply not_isGuard_of_ending
      simp [PathFault.message.eq_def, ending, guardEndings]
  | orderByCollection => exact not_isGuard_of_ending (by decide)
  | insideScalar | notCollection | endsAtObject | endsAtCollection =>
      rw [PathFault.message.eq_def]
      exact not_isGuard_append _ (by decide) (by decide)

theorem OperandFault.Arises.not_isGuard {fault : OperandFault} (arises : fault.Arises)
    : ¬ IsGuard fault.message := by
  cases arises with
  | notApplicable comparison family =>
      -- With the name of the family the end is long enough.
      rw [OperandFault.message.eq_def]
      dsimp only
      rw [String.append_assoc]
      cases family <;> exact not_isGuard_append _ (by decide) (by decide)
  | wrongCount | nullOperand =>
      rw [OperandFault.message.eq_def]
      exact not_isGuard_append _ (by decide) (by decide)

/-- An error that arises is not for the reason of a guard. -/
theorem QueryError.Arises.not_isGuard {error : QueryError} (arises : error.Arises)
    : ∀ reason ∈ error.reason?, ¬ IsGuard reason := by
  intro reason stated
  cases arises with
  | hook => cases stated
  | faulty context arises =>
      cases arises with
      | unresolved typeName path arises =>
          cases stated
          exact arises.not_isGuard
      | invalid arises =>
          cases stated
          exact arises.not_isGuard
      | unconvertible => cases stated

-----------------------------------------------------------------------------------------
-- Values to order by
-----------------------------------------------------------------------------------------

theorem Accessor.isSome_read? {schema : Schema} {owner : schema.Ty}
    {accessor : Accessor schema owner} (single : accessor.isCollection = false)
    (item : schema.Item owner)
    : (accessor.read? item).isSome = true := by
  obtain ⟨path, target⟩ := accessor
  cases target with
  | value => rfl
  | elements => cases single

/-- Nothing is refused for the reason of a guard when it is compiled, no clause, no where tree and no order,
whatever hooks are installed. And a path that leads to a value reads one from every item. So a key that sorts
by values has two of them to compare, whatever items it compares. -/
theorem guards_unreached (schema : Schema) (owner : schema.Ty)
    : (∀ (clause : Clause) error,
          clause.compile schema owner = .error error →
          ∀ reason ∈ error.reason?, ¬ IsGuard reason)
      ∧ (∀ hooks nodes error,
          (Where.compile schema owner hooks nodes).outcome = .error error →
          ∀ reason ∈ error.reason?, ¬ IsGuard reason)
      ∧ (∀ hooks keys error,
          (Order.compile schema owner hooks keys).outcome = .error error →
          ∀ reason ∈ error.reason?, ¬ IsGuard reason)
      ∧ (∀ accessor : Accessor schema owner, accessor.isCollection = false →
          ∀ item, (accessor.read? item).isSome = true)
      ∧ ∀ key sorting, Order.propertyKey schema owner key = .ok sorting →
          ∃ accessor, Accessor.resolve schema owner key.path = .ok accessor
            ∧ accessor.isCollection = false
            ∧ sorting.ascending = Order.compareReads accessor.read?
            ∧ ∀ left right, ∃ first second,
                accessor.read? left = some first
                ∧ accessor.read? right = some second
                ∧ sorting.ascending left right = (first.sortCompare? second).getD .eq := by
  refine ⟨?_, ?_, ?_, fun _ => Accessor.isSome_read?, ?_⟩
  · exact fun clause error fails => (Clause.arises_of_compile fails).not_isGuard
  · exact fun hooks nodes error fails => (Where.arises_of_compile fails).not_isGuard
  · exact fun hooks keys error fails => (Order.arises_of_compile fails).not_isGuard
  · intro key sorting made
    obtain ⟨kind, nullable, read, leads, rfl⟩ := Order.propertyKey_eq_ok.mp made
    have resolved := Accessor.resolve_eq_ok.mpr ⟨_, leads, rfl⟩
    exact ⟨_, resolved, rfl, rfl, fun left right => ⟨read left, read right, rfl, rfl, rfl⟩⟩

/-- A range with one bound is refused for the number of its operands, a bracket after a number for the
number, and an order by the quantities of all lines for its path. By the quantity of the gift orders can be
compared, although there may be no gift. -/
theorem guards_unreached_shop
    : (∃ error,
          Clause.compile Shop.schema .order ⟨"number", .between, [some "3"], false⟩ = .error error
          ∧ error.reason? = some "between requires exactly 2 values, but 1 were provided"
          ∧ ¬ IsGuard "between requires exactly 2 values, but 1 were provided")
      ∧ (∃ error,
          (Where.compile Shop.schema .order {} [.leaf "number[size]" .equal ["3"]]).outcome
            = .error error
          ∧ error.reason? = some "'number' is not a collection"
          ∧ ¬ IsGuard "'number' is not a collection")
      ∧ (∃ error,
          (Order.compile Shop.schema .order {} [⟨"lines[quantity]", false⟩]).outcome = .error error
          ∧ error.reason? = some "cannot order by a collection"
          ∧ ¬ IsGuard "cannot order by a collection")
      ∧ ∃ sorting accessor,
          Order.propertyKey Shop.schema .order ⟨"gift.quantity", true⟩ = .ok sorting
          ∧ Accessor.resolve Shop.schema .order "gift.quantity" = .ok accessor
          ∧ accessor.isCollection = false
          ∧ (accessor.read? Shop.order).isSome = true
          ∧ ∀ other, ∃ first second,
              accessor.read? Shop.order = some first
              ∧ accessor.read? other = some second
              ∧ sorting.ascending Shop.order other = (first.sortCompare? second).getD .eq := by
  obtain ⟨clauses, trees, orders, reads, sorts⟩ := guards_unreached Shop.schema .order
  refine ⟨?_, ?_, ?_, ?_⟩
  · have fails : Clause.compile Shop.schema .order ⟨"number", .between, [some "3"], false⟩
        = .error (.faulty (.invalid (.wrongCount .between 1)) (some ⟨"number", .between, false⟩)) :=
      error?_eq_some.mp (by decide +kernel)
    exact ⟨_, fails, by decide, clauses _ _ fails _ (by decide)⟩
  · have fails
        : (Where.compile Shop.schema .order {} [.leaf "number[size]" .equal ["3"]]).outcome
          = .error (.faulty (.unresolved "Order" "number[size]" (.notCollection "number"))
              (some ⟨"number[size]", .equal, false⟩)) :=
      error?_eq_some.mp (by decide +kernel)
    exact ⟨_, fails, by decide, trees _ _ _ fails _ (by decide)⟩
  · have fails
        : (Order.compile Shop.schema .order {} [⟨"lines[quantity]", false⟩]).outcome
          = .error (.faulty (.unresolved "Order" "lines[quantity]" .orderByCollection) none) :=
      error?_eq_some.mp (by decide +kernel)
    exact ⟨_, fails, by decide, orders _ _ _ fails _ (by decide)⟩
  · obtain ⟨sorting, made⟩ := exists_eq_ok (by decide +kernel
      : (Order.propertyKey Shop.schema .order ⟨"gift.quantity", true⟩).isOk = true)
    obtain ⟨accessor, resolved, single, -, compares⟩ := sorts _ sorting made
    exact ⟨sorting, accessor, made, resolved, single, reads accessor single Shop.order,
      compares Shop.order⟩

end TypedQuery
