import TypedQuery.Proofs.Clause.Range
import TypedQuery.Proofs.Filter.Typing
import TypedQuery.Proofs.Hooks.Walk
import TypedQuery.Proofs.Order.ByValues
import TypedQuery.Proofs.Order.StableSort

/-! Filtering by what items are sorted by. A comparison with a value, and a range of values, keep whatever
stands between two items that they keep. So in a list that is sorted by a property, in either
direction, the items that a clause on this property keeps stand together.
-/

namespace TypedQuery

-----------------------------------------------------------------------------------------
-- Runs
-----------------------------------------------------------------------------------------

section Runs

variable {α : Type}

/-- The items that satisfy the test stand together in the list. -/
def FormsRun (test : α → Bool) (items : List α) : Prop :=
  ∃ before run after,
    items = before ++ run ++ after
    ∧ (∀ item ∈ before, test item = false)
    ∧ (∀ item ∈ run, test item = true)
    ∧ ∀ item ∈ after, test item = false

/-- What lies between two items that satisfy the test satisfies it too. -/
def KeepsBetween (precedes : α → α → Prop) (test : α → Bool) : Prop :=
  ∀ low middle high, precedes low middle → precedes middle high →
    test low = true → test high = true → test middle = true

theorem KeepsBetween.flip {precedes : α → α → Prop} {test : α → Bool}
    (keeps : KeepsBetween precedes test)
    : KeepsBetween (fun first second => precedes second first) test := by
  intro low middle high below above lowKept highKept
  exact keeps high middle low above below highKept lowKept

/-- In a list in order, a test that keeps what lies between forms a run, by induction on the list. An item
in front of a run joins it, since nothing can be left out between them. -/
theorem KeepsBetween.formsRun {precedes : α → α → Prop} {test : α → Bool} {items : List α}
    (keeps : KeepsBetween precedes test) (sorted : items.Pairwise precedes)
    : FormsRun test items := by
  induction items with
  | nil => exact ⟨[], [], [], rfl, by simp, by simp, by simp⟩
  | cons first rest ih =>
      obtain ⟨firstPrecedes, sorted⟩ := List.pairwise_cons.mp sorted
      obtain ⟨before, run, after, rfl, early, kept, late⟩ := ih sorted
      cases firstTest : test first with
      | false =>
          refine ⟨first :: before, run, after, rfl, ?_, kept, late⟩
          exact List.forall_mem_cons.mpr ⟨firstTest, early⟩
      | true =>
          cases run with
          | nil =>
              refine ⟨[], [first], before ++ after, by simp, by simp, by simp [firstTest], ?_⟩
              exact List.forall_mem_append.mpr ⟨early, late⟩
          | cons head others =>
              have nothing : before = [] := by
                rw [List.eq_nil_iff_forall_not_mem]
                intro item member
                have precedesHead : precedes item head := by
                  rw [List.append_assoc] at sorted
                  exact (List.pairwise_append.mp sorted).2.2 item member head (by simp)
                have between := keeps first item head (firstPrecedes item (by simp [member]))
                  precedesHead firstTest (kept head (by simp))
                rw [early item member] at between
                cases between
              subst nothing
              refine ⟨[], first :: head :: others, after, rfl, by simp, ?_, late⟩
              exact List.forall_mem_cons.mpr ⟨firstTest, kept⟩

end Runs

-----------------------------------------------------------------------------------------
-- What comparisons with a value keep
-----------------------------------------------------------------------------------------

/-- If two items stand to an operand as an operator asks, then so does any item between them. -/
theorem CompareOp.allows_between {α : Type} {compare : α → α → Ordering} [Std.TransCmp compare]
    {op : CompareOp} (positive : op ≠ .ne) {low middle high operand : α}
    (below : compare low middle ≠ .gt) (above : compare middle high ≠ .gt)
    (lowAllowed : op.allows (compare low operand) = true)
    (highAllowed : op.allows (compare high operand) = true)
    : op.allows (compare middle operand) = true := by
  cases op <;> simp only [allows, bne_iff_ne, beq_iff_eq] at *
  case ne => exact absurd rfl positive
  case eq =>
    have forth : compare middle operand ≠ .gt :=
      Std.TransCmp.le_trans above (by simp [highAllowed])
    have back : compare operand middle ≠ .gt :=
      Std.TransCmp.le_trans (by simp [Std.OrientedCmp.eq_symm lowAllowed]) below
    exact eq_of_not_gt forth back
  case gt => exact Std.TransCmp.gt_of_ge_of_gt (Std.OrientedCmp.le_iff_ge.mp below) lowAllowed
  case gte => exact Std.TransCmp.ge_trans (Std.OrientedCmp.le_iff_ge.mp below) lowAllowed
  case lt => exact Std.TransCmp.lt_of_le_of_lt above highAllowed
  case lte => exact Std.TransCmp.le_trans above highAllowed

namespace Value

theorem rank_le_two (value : Value) : value.rank ≤ 2 := by
  cases value with
  | number amount => cases isNaN : amount.isNaN <;> simp [rank, isNaN]
  | text | instant | date | variant | flag | uuid => exact Nat.le_refl 2
  | null => exact Nat.zero_le 2

/-- What does not stand behind a value has no higher rank. -/
theorem rank_le_of_standing {left right : Value} (standing : left.standing right ≠ .gt)
    : left.rank ≤ right.rank := by
  by_contra above
  have behind : compare left.rank right.rank = .gt := Nat.compare_eq_gt.mpr (Nat.lt_of_not_le above)
  exact standing (by rw [Value.standing, behind, Ordering.gt_then])

end Value

namespace Kind

variable {kind : Kind} {field operand : Value}

theorem Denoted.describes (denoted : kind.Denoted operand) : kind.Describes operand := by
  cases denoted <;> constructor

/-- A field compares with an operand unless it is null or NaN, and then as it is sorted. -/
theorem Denoted.compare?_eq_some_iff (denoted : kind.Denoted operand)
    (ofKind : field = .null ∨ kind.Describes field) {ordering : Ordering}
    : field.compare? operand = some ordering
      ↔ field.rank = 2 ∧ field.standing operand = ordering := by
  rcases ofKind with rfl | described
  · simp [Value.compare?, Value.rank]
  · cases described with
    | float number =>
        cases denoted with
        | float operand isNumber =>
            cases unordered : number.isNaN <;>
              simp [Value.compare?, Value.rank, Value.standing, Number.isNaN, Number.compare?,
                Number.toBinary64, Binary64.compare?, unordered, isNumber]
    | text | integer | unsigned | flag | instant | date | uuid | variant =>
        cases denoted
        simp [Value.compare?, Value.rank, Value.standing, Number.isNaN, Number.compare?]

/-- A field satisfies a comparison with an operand, other than that they differ, if it is neither null nor
NaN and stands to the operand as the comparison asks. -/
theorem Denoted.holds_iff (denoted : kind.Denoted operand)
    (ofKind : field = .null ∨ kind.Describes field) {op : CompareOp} (positive : op ≠ .ne)
    : op.holds field operand = true
      ↔ field.rank = 2 ∧ op.allows (field.standing operand) = true := by
  have compared : op.holds field operand = true
      ↔ ∃ ordering, field.compare? operand = some ordering ∧ op.allows ordering = true := by
    cases compared : field.compare? operand with
    | none =>
        have filled : ¬ (field = .null ∧ operand = .null) := fun nulls =>
          denoted.describes.ne_null nulls.2
        simp [op.holds_eq_ne compared filled, positive]
    | some ordering => simp [op.holds_of_compare? compared]
  simp only [compared, denoted.compare?_eq_some_iff ofKind]
  constructor
  · rintro ⟨ordering, ⟨ranked, rfl⟩, allowed⟩
    exact ⟨ranked, allowed⟩
  · rintro ⟨ranked, allowed⟩
    exact ⟨_, ⟨ranked, rfl⟩, allowed⟩

/-- A comparison with an operand keeps whatever is sorted between two items that it keeps. -/
theorem Denoted.keepsBetween {α : Type} {read : α → Value} (denoted : kind.Denoted operand)
    (ofKind : ∀ item, read item = .null ∨ kind.Describes (read item)) {op : CompareOp}
    (positive : op ≠ .ne)
    : KeepsBetween (fun left right => (read left).standing (read right) ≠ .gt)
        (fun item => op.holds (read item) operand) := by
  intro low middle high below above lowKept highKept
  rw [denoted.holds_iff (ofKind _) positive] at lowKept highKept ⊢
  constructor
  · have least := Value.rank_le_of_standing below
    rw [lowKept.1] at least
    exact Nat.le_antisymm (Value.rank_le_two _) least
  · -- The operand is put among the values of its kind, on which standing is a total preorder.
    have preorder := Value.transCmp_standing
      (fun value : { value : Value // value = .null ∨ kind.Describes value } => value.val)
      fun value => value.property
    have between := @CompareOp.allows_between _ _ preorder op positive
      ⟨read low, ofKind low⟩ ⟨read middle, ofKind middle⟩ ⟨read high, ofKind high⟩
      ⟨operand, .inr denoted.describes⟩
    exact between below above lowKept.2 highKept.2

/-- A token that is not null denotes an operand of the kind. -/
theorem denoted_of_convert {nullable : Bool} {token : Token} (filled : token ≠ none)
    (converted : kind.convert nullable token = .ok operand)
    : kind.Denoted operand := by
  rcases takes_of_convert converted with ⟨null, -⟩ | denoted
  · exact absurd ((null_iff_of_convert converted).mp null) filled
  · exact denoted

end Kind

-----------------------------------------------------------------------------------------
-- Clauses on what a list is sorted by
-----------------------------------------------------------------------------------------

/-- The comparison asks where a value lies: at an operand, on one side of it, or between two. -/
def Comparison.isRanging : Comparison → Bool
  | .equal | .greaterThan | .greaterThanOrEqual | .lessThan | .lessThanOrEqual | .between => true
  | _ => false

theorem Comparison.cases_of_isRanging {comparison : Comparison}
    (ranging : comparison.isRanging = true)
    : comparison = .between ∨ ∃ op, comparison.compareOp? = some op ∧ op ≠ .ne := by
  cases comparison <;> cases ranging
  case between => exact .inl rfl
  all_goals exact .inr ⟨_, rfl, by decide⟩

section Clauses

variable {schema : Schema} {owner : schema.Ty}

/-- A clause that asks where a value lies keeps whatever is sorted by this value between two items that it
keeps. -/
theorem Clause.keepsBetween (honest : schema.Honest) {path : String} {kind : Kind} {nullable : Bool}
    {read : schema.Item owner → Value}
    (leads : resolve schema owner path = .ok (.value kind nullable read)) {comparison : Comparison}
    (ranging : comparison.isRanging = true) {tokens : List Token} (filled : none ∉ tokens)
    {predicate : Predicate (schema.Item owner)}
    (compiled : Clause.compile schema owner ⟨path, comparison, tokens, false⟩ = .ok predicate)
    : KeepsBetween (fun left right => (read left).standing (read right) ≠ .gt) predicate.test := by
  have ofKind := honest.ofKind_of_resolve leads
  obtain ⟨-, built⟩ := (compile_of_value leads).mp compiled
  rcases Comparison.cases_of_isRanging ranging with rfl | ⟨op, compares, positive⟩
  · obtain ⟨first, second, low, high, rfl, firstConverted, secondConverted, rfl⟩ := built.eq_between
    simp only [List.mem_cons, List.not_mem_nil, or_false, not_or] at filled
    have lowDenoted := Kind.denoted_of_convert (Ne.symm filled.1) firstConverted
    have highDenoted := Kind.denoted_of_convert (Ne.symm filled.2) secondConverted
    have lower : KeepsBetween _ (fun item => CompareOp.gte.holds (read item) low) :=
      lowDenoted.keepsBetween ofKind (by decide)
    have upper : KeepsBetween _ (fun item => CompareOp.lte.holds (read item) high) :=
      highDenoted.keepsBetween ofKind (by decide)
    intro small middle large below above smallKept largeKept
    simp only [ReadValue.between_test, lowDenoted.describes.ne_null, false_and, or_false]
      at smallKept largeKept ⊢
    exact ⟨lower small middle large below above smallKept.1 largeKept.1,
      upper small middle large below above smallKept.2 largeKept.2⟩
  · obtain ⟨token, operand, rfl, converted, rfl⟩ := built.eq_compare compares
    have denoted := Kind.denoted_of_convert (Ne.symm (List.ne_of_not_mem_cons filled)) converted
    exact denoted.keepsBetween ofKind positive

/-- The first key of the chain sorts by the value at a path; whatever other keys there are only decide
between items that it leaves equal. -/
def OrderChain.LedBy (chain : OrderChain (schema.Item owner)) (key : OrderKey) : Prop :=
  ∃ primary rest, Order.propertyKey schema owner key = .ok primary ∧ chain.keys = primary :: rest

/-- A chain that is compiled from keys is led by the first of them, unless a comparison is supplied for
it. -/
theorem OrderChain.ledBy_of_compile {hooks : Hooks (schema.Item owner)} {key : OrderKey}
    {keys : List OrderKey} {chain : OrderChain (schema.Item owner)}
    (unsupplied : hooks.suppliesKey true key = false)
    (compiled : (Order.compile schema owner hooks (key :: keys)).outcome = .ok (some chain))
    : chain.LedBy key := by
  simp only [Order.compile, List.isEmpty_cons, Bool.false_eq_true, if_false, Order.compileKeys,
    Order.compileKey, Traced.outcome_bind, bind_eq_ok] at compiled
  obtain ⟨_, ⟨primary, ⟨answer, provided, made⟩, rest, -, listed⟩, same⟩ := compiled
  cases listed
  cases same
  cases answer with
  | some supplied => simp [Hooks.suppliesKey_of_sortKey provided] at unsupplied
  | none => exact ⟨primary, rest, made, rfl⟩

/-- What is sorted by a chain is sorted by its first key. -/
theorem OrderChain.primary_of_compare {α : Type} {chain : OrderChain α} {primary : SortKey α}
    {rest : List (SortKey α)} (led : chain.keys = primary :: rest) {left right : α}
    (ordered : chain.compare left right ≠ .gt)
    : primary.compare left right ≠ .gt := by
  intro behind
  rw [OrderChain.compare, led, OrderChain.compareBy_cons, compareLex, behind] at ordered
  exact ordered rfl

/-- What is kept between items sorted by the value at a path is kept between items sorted by a key for this
path, whatever its direction. -/
theorem Order.keepsBetween_propertyKey (honest : schema.Honest) {key : OrderKey} {kind : Kind}
    {nullable : Bool} {read : schema.Item owner → Value}
    (leads : resolve schema owner key.path = .ok (.value kind nullable read))
    {primary : SortKey (schema.Item owner)}
    (keyed : Order.propertyKey schema owner key = .ok primary) {test : schema.Item owner → Bool}
    (keeps : KeepsBetween (fun left right => (read left).standing (read right) ≠ .gt) test)
    : KeepsBetween (fun left right => primary.compare left right ≠ .gt) test := by
  have preorder := Order.transCmp_of_propertyKey honest keyed
  obtain ⟨_, _, _, found, rfl⟩ := Order.propertyKey_eq_ok.mp keyed
  cases leads.symm.trans found
  have ofKind := honest.ofKind_of_resolve leads
  have stands (left right : schema.Item owner)
      : ((read left).sortCompare? (read right)).getD .eq = (read left).standing (read right) := by
    rw [Value.sortCompare?_eq_standing (ofKind left) (ofKind right), Option.getD_some]
  simp only [stands] at preorder
  cases descends : key.descending with
  | false =>
      simpa [SortKey.compare, OrderKey.direction, descends, Direction.apply, stands] using keeps
  | true =>
      have turned (left right : schema.Item owner)
          : ((read left).standing (read right)).swap = (read right).standing (read left) :=
        preorder.eq_swap.symm
      simpa [SortKey.compare, OrderKey.direction, descends, Direction.apply, stands, turned]
        using keeps.flip

end Clauses

namespace Clause

/-- In a list that is sorted by a chain led by a path, in either direction, the items that a clause on this
path keeps stand together, if the clause asks where the value lies and no token is null. So it is for
every list that is in the order of the chain, and for what sorting by the chain makes of any list if
the chain is a total preorder. -/
theorem compile_formsRun {schema : Schema} (honest : schema.Honest) {owner : schema.Ty}
    {path : String} {descending : Bool} {chain : OrderChain (schema.Item owner)}
    (led : chain.LedBy ⟨path, descending⟩) {comparison : Comparison}
    (ranging : comparison.isRanging = true) {tokens : List Token} (filled : none ∉ tokens)
    {predicate : Predicate (schema.Item owner)}
    (compiled : Clause.compile schema owner ⟨path, comparison, tokens, false⟩ = .ok predicate)
    : (∀ items : List (schema.Item owner),
          items.Pairwise (fun left right => chain.compare left right ≠ .gt) →
          FormsRun predicate.test items)
      ∧ (Std.TransCmp chain.compare → ∀ items, FormsRun predicate.test (chain.sort items)) := by
  obtain ⟨primary, rest, keyed, keys⟩ := led
  obtain ⟨kind, nullable, read, leads, -⟩ := Order.propertyKey_eq_ok.mp keyed
  have keeps := Order.keepsBetween_propertyKey honest leads keyed
    (Clause.keepsBetween honest leads ranging filled compiled)
  have ofSorted {items : List (schema.Item owner)}
      (sorted : items.Pairwise fun left right => chain.compare left right ≠ .gt)
      : FormsRun predicate.test items :=
    keeps.formsRun (sorted.imp (OrderChain.primary_of_compare keys))
  exact ⟨fun items sorted => ofSorted sorted,
    fun preorder items => ofSorted (chain.sort_stablySorted items).sorted⟩

/-- Readings above, at and below nought, from either side of it, without a number and without an answer. -/
def scatteredReadings : List Gauge.Reading :=
  [⟨some (.ofInt 0), .ofInt 2⟩, ⟨none, .ofInt 1⟩, ⟨some (.ofInt 7), .ofInt 9⟩,
    ⟨some .nan, .ofInt 0⟩, ⟨some (.ofInt 5), .ofInt 0⟩, ⟨some (.ofMagnitude true 0), .ofInt 1⟩,
    ⟨some (.ofInt (-3)), .ofInt 0⟩]

/-- With the highest level first, the levels from minus nought to five stand together, both noughts among
them, and what has no number comes after the levels that are too low. -/
theorem compile_formsRun_scatteredReadings
    : Gauge.schema.Honest
      ∧ ∃ (chain : OrderChain (Gauge.schema.Item ())) (predicate : Predicate (Gauge.schema.Item ())),
          chain.LedBy ⟨"level", true⟩
          ∧ Clause.compile Gauge.schema () ⟨"level", .between, [some "-0", some "5"], false⟩
            = .ok predicate
          ∧ FormsRun predicate.test (chain.sort scatteredReadings)
          ∧ (chain.sort scatteredReadings).map predicate.test
            = [false, true, true, true, false, false, false] := by
  obtain ⟨predicate, compiled⟩ := exists_eq_ok (by decide +kernel
    : (Clause.compile Gauge.schema ()
        ⟨"level", .between, [some "-0", some "5"], false⟩).isOk = true)
  obtain ⟨found, made⟩ := exists_eq_ok (by decide +kernel
    : (Order.compile Gauge.schema () {} Order.levelKeys).outcome.isOk = true)
  have kept
      : (do
          let found ← (Order.compile Gauge.schema () {} Order.levelKeys).outcome
          let predicate ← Clause.compile Gauge.schema ()
            ⟨"level", .between, [some "-0", some "5"], false⟩
          return found.map fun chain : OrderChain Gauge.Reading =>
            (chain.sort scatteredReadings).map predicate.test)
        = (.ok (some [false, true, true, true, false, false, false])
            : Except QueryError (Option (List Bool))) := by
    decide +kernel
  rw [made, ok_bind, compiled, ok_bind] at kept
  obtain ⟨chain, rfl, tests⟩ := Option.map_eq_some_iff.mp (Except.ok.inj kept)
  have led := OrderChain.ledBy_of_compile rfl made
  have preorder := Order.transCmp_of_compile Gauge.honest rfl made
  have runs := (compile_formsRun Gauge.honest led rfl (by decide) compiled).2 preorder
  exact ⟨Gauge.honest, chain, predicate, led, compiled, runs scatteredReadings, tests⟩

end Clause

end TypedQuery
