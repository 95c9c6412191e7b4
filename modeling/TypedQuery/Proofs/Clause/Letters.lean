import TypedQuery.Proofs.Accessor.Letters
import TypedQuery.Proofs.Accessor.Links
import TypedQuery.Proofs.Clause.Equivalence

/-! Clauses whose paths are spelled in another case of letters. What a clause keeps does not depend on the
texts that lead to the values it compares, so such clauses compile alike and keep the same items.
-/

namespace TypedQuery

-----------------------------------------------------------------------------------------
-- Predicates under other paths
-----------------------------------------------------------------------------------------

namespace ReadValue

variable {α : Type} {value : ReadValue α} {comparison : Comparison} {tokens : List Token}
  {predicate : Predicate α}

/-- A comparison that is made on a value is made on the same value under another path, with the same
outcome. -/
theorem Built.renamed (built : Built value tokens comparison predicate) (path : String)
    : ∃ other, Built { value with path } tokens comparison other
        ∧ ∀ item, predicate.test item = other.test item := by
  cases built with
  | isIn converted => exact ⟨_, .isIn converted, fun _ => rfl⟩
  | notIn converted => exact ⟨_, .notIn converted, fun _ => rfl⟩
  | between converted =>
      refine ⟨_, .between converted, fun _ => ?_⟩
      unfold ReadValue.between
      split <;> rfl
  | text searches => exact ⟨_, .text searches, fun _ => rfl⟩
  | like => exact ⟨_, .like, fun _ => rfl⟩
  | compare compares converted => exact ⟨_, .compare compares converted, fun _ => rfl⟩

theorem exists_predicate_renamed (made : value.predicate comparison tokens = .ok predicate)
    (path : String)
    : ∃ other, ReadValue.predicate { value with path } comparison tokens = .ok other
        ∧ ∀ item, predicate.test item = other.test item := by
  obtain ⟨applies, built⟩ := predicate_eq_ok.mp made
  obtain ⟨other, builds, same⟩ := built.renamed path
  exact ⟨other, predicate_eq_ok.mpr ⟨applies, builds⟩, same⟩

end ReadValue

namespace Target

variable {schema : Schema} {owner : schema.Ty} {comparison : Comparison} {tokens : List Token}

/-- A comparison on elements is made wherever it can be made on each of them alike. -/
theorem exists_predicate_elements {element : schema.Ty} {inner counterpart : Target schema element}
    {dotted renamed elementPath innerPath path other : String}
    {gather : schema.Item owner → List (schema.Item element)}
    {predicate : Predicate (schema.Item owner)}
    (alike
      : Interchangeable (inner.predicate comparison tokens elementPath)
          (counterpart.predicate comparison tokens innerPath))
    (made
      : (Target.elements dotted element gather elementPath inner).predicate comparison tokens path
        = .ok predicate)
    : ∃ likewise,
        (Target.elements renamed element gather innerPath counterpart).predicate comparison tokens
            other
          = .ok likewise
        ∧ ∀ item, predicate.test item = likewise.test item := by
  obtain ⟨each, makes, rfl⟩ := predicate_elements_eq_ok.mp made
  obtain ⟨other, makesOther, same⟩ := alike.exists_ok makes
  refine ⟨_, predicate_elements_eq_ok.mpr ⟨other, makesOther, rfl⟩, fun item => ?_⟩
  exact congrArg (gather item).any (funext same)

/-- The texts that lead to a target change nothing about what a comparison on it keeps. By induction on where
the target leads. -/
theorem interchangeable_untitled (target : Target schema owner) (path other : String)
    : Interchangeable (target.predicate comparison tokens path)
        (target.untitled.predicate comparison tokens other) := by
  induction target generalizing path other with
  | value kind nullable read =>
      exact .of_counterparts (fun _ made => ReadValue.exists_predicate_renamed made other)
        (fun _ made => ReadValue.exists_predicate_renamed made path)
  | elements dotted element gather elementPath inner ih =>
      exact .of_counterparts (fun _ made => exists_predicate_elements (ih elementPath "") made)
        (fun _ made => exists_predicate_elements (ih elementPath "").symm made)

/-- Targets that read and gather the same are compared alike, whatever texts lead there. -/
theorem interchangeable_predicate {target counterpart : Target schema owner}
    (same : target.untitled = counterpart.untitled) (path other : String)
    : Interchangeable (target.predicate comparison tokens path)
        (counterpart.predicate comparison tokens other) :=
  (same ▸ target.interchangeable_untitled path "").trans
    (counterpart.interchangeable_untitled other "").symm

end Target

-----------------------------------------------------------------------------------------
-- Clauses and accessors in another case of letters
-----------------------------------------------------------------------------------------

section Letters

variable {schema : Schema} {owner : schema.Ty} {raw other : String}

/-- A clause whose path leads to the same is made of the same. -/
theorem Clause.exists_compile_of_leads {clause : Clause} {predicate : Predicate (schema.Item owner)}
    (same : leads? (resolve schema owner clause.path) = leads? (resolve schema owner other))
    (made : clause.compile schema owner = .ok predicate)
    : ∃ counterpart,
        Clause.compile schema owner { clause with path := other } = .ok counterpart
        ∧ ∀ item, predicate.test item = counterpart.test item := by
  obtain ⟨target, positive, leads, built, rfl⟩ := compile_eq_ok.mp made
  obtain ⟨found, leadsToo, untitled⟩ :=
    leads?_eq_some.mp (same.symm.trans (leads?_eq_some.mpr ⟨target, leads, rfl⟩))
  obtain ⟨counterpart, builds, tests⟩ :=
    (Target.interchangeable_predicate untitled.symm _ other).exists_ok built
  refine ⟨_, compile_eq_ok.mpr ⟨found, counterpart, leadsToo, builds, rfl⟩, fun item => ?_⟩
  simp only [Predicate.negatedIf_test, tests]

/-- Paths are read whatever the case of their letters is, if no two names of a type differ in that alone.
With letters in another case, inside brackets too, a path resolves exactly if it does as it is, and then
to a value of the same kind that can be null alike, or to a collection alike. It reads the same of every
item, and in clauses with any comparison, tokens and negation it is accepted alike and keeps the same
items. -/
theorem resolve_sameLetters (schema : Schema) (wellNamed : ∀ owner, schema.WellNamed owner)
    (owner : schema.Ty) (raw other : String) (same : Text.sameLetters raw other = true)
    : ((∃ accessor, Accessor.resolve schema owner raw = .ok accessor)
        ↔ ∃ accessor, Accessor.resolve schema owner other = .ok accessor)
      ∧ (∀ first second,
          Accessor.resolve schema owner raw = .ok first →
          Accessor.resolve schema owner other = .ok second →
          first.kind? = second.kind?
          ∧ first.isNullable = second.isNullable
          ∧ first.isCollection = second.isCollection
          ∧ ∀ item, first.read? item = second.read? item)
      ∧ ∀ comparison tokens negate,
          Interchangeable (Clause.compile schema owner ⟨raw, comparison, tokens, negate⟩)
            (Clause.compile schema owner ⟨other, comparison, tokens, negate⟩) := by
  have leads : leads? (resolve schema owner raw) = leads? (resolve schema owner other) :=
    leads?_resolve_congr wellNamed same
  refine ⟨?_, fun first second found finds => ?_, fun comparison tokens negate => ?_⟩
  · rw [Accessor.exists_resolve_iff, Accessor.exists_resolve_iff, leads]
  · obtain ⟨target, resolved, rfl⟩ := Accessor.resolve_eq_ok.mp found
    obtain ⟨counterpart, resolves, rfl⟩ := Accessor.resolve_eq_ok.mp finds
    rw [resolved, resolves] at leads
    exact Accessor.reads_alike (Option.some.inj leads)
  · exact .of_counterparts (fun _ made => Clause.exists_compile_of_leads leads made)
      (fun _ made => Clause.exists_compile_of_leads leads.symm made)

/-- The quantities in the orders that an order led to are found through two types with letters in other cases,
of which only some are those of the exact names. -/
theorem resolve_sameLetters_quantity
    : (∀ owner, Shop.schema.WellNamed owner)
      ∧ Text.sameLetters "followUps[lines[quantity]]" "FOLLOWups[lines[QUANTITY]]" = true
      ∧ ∃ accessor predicate,
          Accessor.resolve Shop.schema .order "FOLLOWups[lines[QUANTITY]]" = .ok accessor
          ∧ accessor.isCollection = true
          ∧ Clause.compile Shop.schema .order
                ⟨"FOLLOWups[lines[QUANTITY]]", .equal, [some "5"], false⟩ = .ok predicate
          ∧ predicate.test Shop.order = true := by
  have same : Text.sameLetters "followUps[lines[quantity]]" "FOLLOWups[lines[QUANTITY]]" = true := by
    decide +kernel
  obtain ⟨resolves, reads, clauses⟩ :=
    resolve_sameLetters Shop.schema Shop.wellNamed .order "followUps[lines[quantity]]"
      "FOLLOWups[lines[QUANTITY]]" same
  obtain ⟨plain, found⟩ := exists_eq_ok (by decide +kernel
    : (Accessor.resolve Shop.schema .order "followUps[lines[quantity]]").isOk = true)
  obtain ⟨accessor, finds⟩ := resolves.mp ⟨plain, found⟩
  have collection : plain.isCollection = true := by
    obtain ⟨target, resolved, rfl⟩ := Accessor.resolve_eq_ok.mp found
    exact (Accessor.isCollection_eq _).trans ((isCollection_iff_of_resolve resolved).mpr (by decide))
  obtain ⟨-, -, alike, -⟩ := reads plain accessor found finds
  have kept
      : Clause.holds Shop.schema .order ⟨"followUps[lines[quantity]]", .equal, [some "5"], false⟩
          Shop.order
        = true := by
    decide +kernel
  obtain ⟨predicate, made, tests⟩ :=
    Clause.holds_iff.mp ((Clause.holds_congr (clauses .equal [some "5"] false)).symm.trans kept)
  exact ⟨Shop.wellNamed, same, accessor, predicate, finds, alike ▸ collection, made, tests⟩

end Letters

end TypedQuery
