import TypedQuery.Proofs.Accessor.Links
import TypedQuery.Proofs.Clause.Leaf

/-! Clauses on the elements of a collection. A comparison on a path with a bracket asks whether some
element satisfies the comparison on the path in the bracket. A negation stands outside of that, and
without a collection there are no elements.
-/

namespace TypedQuery

variable {schema : Schema} {owner : schema.Ty} {dotted element : String}

/-- The elements of a collection, seen from an item that may hold the object with the collection. -/
theorem Target.throughOptional_elements {linked : schema.Ty} {path elementPath : String}
    (get : schema.Item owner → Option (schema.Item linked)) (collection : Collection schema linked)
    (inner : Target schema collection.element)
    : (Target.elements path collection.element collection.gather elementPath inner).throughOptional
        get
      = .elements path collection.element (collection.throughOptional get).gather elementPath
          inner := by
  rw [Target.throughOptional]
  congr 1
  funext item
  simp only [Collection.throughOptional]
  cases get item <;> rfl

/-- Names of a collection lead to its elements, and from there to wherever the bracket leads. By
induction on the names. -/
theorem followSegments_of_collectionAt? {raw : String} {path : Path} {names : List String}
    {collection : Collection schema owner}
    {descend : (element : schema.Ty) → Except Fault (String × Target schema element)}
    (bracketed : path.isCollection = true)
    (reached : schema.collectionAt? owner names = some collection)
    : followSegments schema raw path descend owner names
      = (descend collection.element).map fun (elementPath, inner) =>
          .elements (String.intercalate "." path.segments) collection.element collection.gather
            elementPath inner := by
  induction names generalizing owner with
  | nil => cases reached
  | cons name rest ih =>
      unfold Schema.collectionAt? at reached
      unfold followSegments
      cases found : schema.lookup? owner name with
      | none => simp [found] at reached
      | some property =>
          cases property with
          | scalar kind nullable read => simp [found] at reached
          | object linked get =>
              simp only [found, Option.map_eq_some_iff] at reached
              obtain ⟨below, reached, rfl⟩ := reached
              have more : rest ≠ [] := by
                rintro rfl
                cases reached
              simp only [List.isEmpty_eq_false_iff.mpr more, Bool.not_false, if_true, ih reached]
              cases descended : descend below.element <;>
                simp [Collection.through, descended, Except.map, Target.through]
          | optionalObject linked get =>
              simp only [found, Option.map_eq_some_iff] at reached
              obtain ⟨below, reached, rfl⟩ := reached
              have more : rest ≠ [] := by
                rintro rfl
                cases reached
              simp only [List.isEmpty_eq_false_iff.mpr more, Bool.not_false, if_true, ih reached]
              cases descended : descend below.element with
              | error fault => simp [Collection.throughOptional, descended, Except.map]
              | ok within =>
                  simp only [Collection.throughOptional, descended, Except.map]
                  exact congrArg Except.ok (Target.throughOptional_elements get below within.2)
          | collection element get =>
              cases rest with
              | nil =>
                  simp only [found, List.isEmpty_nil, if_true, Option.some.injEq] at reached
                  subst reached
                  simp [bracketed]
              | cons next others => simp [found] at reached

/-- A path with a bracket whose names lead to a collection leads from there to wherever the path in
the bracket leads, and fails as this one does. -/
theorem resolve_bracketed {collection : Collection schema owner} (bare : '[' ∉ dotted.toList)
    (words : "" ∉ Path.names dotted) (filled : element ≠ "")
    (reached : schema.collectionAt? owner (Path.names dotted) = some collection)
    : resolve schema owner (dotted ++ "[" ++ element ++ "]")
      = (resolve schema collection.element element).map fun inner =>
          .elements dotted collection.element collection.gather element inner := by
  let path : Path := ⟨Path.names dotted, some element⟩
  have parsed : Path.parse (dotted ++ "[" ++ element ++ "]") = .ok path :=
    (Path.parse_bracketed bare).mpr ⟨words, filled, rfl⟩
  have bracketed : path.isCollection = true := rfl
  rw [resolve_eq, parsed]
  dsimp only
  rw [followSegments_of_collectionAt? bracketed reached, Path.intercalate_names]
  rw [descendInto]
  cases resolves : resolve schema collection.element element <;>
    simp [path, resolves, Except.map]

/-- A path that resolves is not empty. -/
theorem ne_empty_of_resolve {path : String} {target : Target schema owner}
    (resolved : resolve schema owner path = .ok target)
    : path ≠ "" := by
  rintro rfl
  rw [resolve_eq] at resolved
  cases resolved

/-- A path with a bracket resolves exactly if the names before the bracket lead to a collection and
the path in the bracket resolves for its elements. -/
theorem resolve_bracketed_eq_ok {target : Target schema owner} (bare : '[' ∉ dotted.toList)
    : resolve schema owner (dotted ++ "[" ++ element ++ "]") = .ok target
      ↔ "" ∉ Path.names dotted
        ∧ ∃ collection inner,
            schema.collectionAt? owner (Path.names dotted) = some collection
            ∧ resolve schema collection.element element = .ok inner
            ∧ .elements dotted collection.element collection.gather element inner = target := by
  constructor
  · intro resolved
    rw [resolve_eq] at resolved
    split at resolved
    · cases resolved
    · next path parsed =>
      obtain ⟨words, filled, rfl⟩ := (Path.parse_bracketed bare).mp parsed
      have follows := follows_of_followSegments resolved
      have elements : target.isCollection = true := follows.isCollection_eq
      cases target with
      | value kind nullable read => cases elements
      | elements text each gather elementPath inner =>
          obtain ⟨rfl, reached, descended⟩ := follows.collectionAt?
          obtain ⟨⟨⟩, resolves⟩ := descendInto_eq_ok.mp descended
          rw [Path.intercalate_names]
          exact ⟨words, ⟨each, gather⟩, inner, reached, resolves, rfl⟩
  · rintro ⟨words, collection, inner, reached, resolves, rfl⟩
    have filled : element ≠ "" := ne_empty_of_resolve resolves
    rw [resolve_bracketed bare words filled reached, resolves]
    rfl

namespace Clause

variable {comparison : Comparison} {tokens : List Token} {negate : Bool}

/-- A clause with a bracket compiles exactly if the names before the bracket lead to a collection and
the clause on the path in the bracket compiles for its elements. -/
theorem compile_bracketed_eq_ok {predicate : Predicate (schema.Item owner)}
    (bare : '[' ∉ dotted.toList)
    : Clause.compile schema owner ⟨dotted ++ "[" ++ element ++ "]", comparison, tokens, negate⟩
        = .ok predicate
      ↔ "" ∉ Path.names dotted
        ∧ ∃ collection inner,
            schema.collectionAt? owner (Path.names dotted) = some collection
            ∧ Clause.compile schema collection.element ⟨element, comparison, tokens, false⟩
              = .ok inner
            ∧ (Predicate.any dotted collection.gather inner).negatedIf negate = predicate := by
  rw [compile_eq_ok]
  constructor
  · rintro ⟨target, positive, leads, built, same⟩
    obtain ⟨words, collection, within, reached, resolves, rfl⟩ :=
      (resolve_bracketed_eq_ok bare).mp leads
    obtain ⟨inner, compiles, rfl⟩ := Target.predicate_elements_eq_ok.mp built
    exact ⟨words, collection, inner, reached,
      compile_unnegated_eq_ok.mpr ⟨within, resolves, compiles⟩, same⟩
  · rintro ⟨words, collection, inner, reached, compiled, same⟩
    obtain ⟨within, resolves, compiles⟩ := compile_unnegated_eq_ok.mp compiled
    exact ⟨_, _, (resolve_bracketed_eq_ok bare).mpr ⟨words, collection, within, reached, resolves, rfl⟩,
      Target.predicate_elements_eq_ok.mpr ⟨inner, compiles, rfl⟩, same⟩

/-- A clause on the elements of a collection compiles exactly if its dotted part names a collection
and the clause on the element path compiles for the elements, without negation. Its filter and its
test then ask whether some element satisfies that clause, and a negation is put on top. -/
theorem compile_bracketed (schema : Schema) (owner : schema.Ty) (dotted element : String)
    (comparison : Comparison) (tokens : List Token) (negate : Bool) (bare : '[' ∉ dotted.toList)
    : ((∃ predicate,
          Clause.compile schema owner
            ⟨dotted ++ "[" ++ element ++ "]", comparison, tokens, negate⟩ = .ok predicate)
        ↔ "" ∉ Path.names dotted
          ∧ ∃ collection inner,
              schema.collectionAt? owner (Path.names dotted) = some collection
              ∧ Clause.compile schema collection.element ⟨element, comparison, tokens, false⟩
                = .ok inner)
      ∧ ∀ predicate collection inner,
          Clause.compile schema owner
              ⟨dotted ++ "[" ++ element ++ "]", comparison, tokens, negate⟩ = .ok predicate
          → schema.collectionAt? owner (Path.names dotted) = some collection
          → Clause.compile schema collection.element ⟨element, comparison, tokens, false⟩
              = .ok inner
          → predicate.filter
              = (if negate then .not (.any dotted inner.filter) else .any dotted inner.filter)
            ∧ ∀ item,
                (predicate.test item = (negate ^^ (collection.gather item).any inner.test))
                ∧ (collection.gather item = [] → predicate.test item = negate) := by
  refine ⟨⟨?_, ?_⟩, ?_⟩
  · rintro ⟨predicate, compiled⟩
    obtain ⟨words, collection, inner, reached, compiles, -⟩ :=
      (compile_bracketed_eq_ok bare).mp compiled
    exact ⟨words, collection, inner, reached, compiles⟩
  · rintro ⟨words, collection, inner, reached, compiles⟩
    exact ⟨_, (compile_bracketed_eq_ok bare).mpr ⟨words, collection, inner, reached, compiles, rfl⟩⟩
  · intro predicate collection inner compiled reached compiles
    obtain ⟨-, other, same, leads, makes, rfl⟩ := (compile_bracketed_eq_ok bare).mp compiled
    obtain rfl : other = collection := Option.some.inj (leads.symm.trans reached)
    obtain rfl : same = inner := Except.ok.inj (makes.symm.trans compiles)
    have asks (item : schema.Item owner)
        : ((Predicate.any dotted other.gather same).negatedIf negate).test item
          = (negate ^^ (other.gather item).any same.test) := by
      cases negate <;> simp [Predicate.negatedIf, Predicate.any, Predicate.not]
    refine ⟨?_, fun item => ⟨asks item, fun empty => ?_⟩⟩
    · cases negate <;> rfl
    · rw [asks, empty, List.any_nil, Bool.xor_false]

/-- Orders none of whose follow-ups has a line of other than five pieces. -/
theorem compile_bracketed_followUpLines
    : '[' ∉ "followUps".toList
      ∧ ∃ predicate inner,
          Clause.compile Shop.schema .order
              ⟨"followUps[lines[quantity]]", .notEqual, [some "5"], true⟩ = .ok predicate
          ∧ Clause.compile Shop.schema .order
              ⟨"lines[quantity]", .notEqual, [some "5"], false⟩ = .ok inner
          ∧ predicate.filter = .not (.any "followUps" inner.filter)
          ∧ predicate.test Shop.order = !(Shop.order.followUps.any inner.test) := by
  have bare : '[' ∉ "followUps".toList := by decide
  obtain ⟨inner, compiles⟩ := exists_eq_ok (by decide +kernel
    : (Clause.compile Shop.schema .order
        ⟨"lines[quantity]", .notEqual, [some "5"], false⟩).isOk = true)
  obtain ⟨succeeds, means⟩ :=
    compile_bracketed Shop.schema .order "followUps" "lines[quantity]" .notEqual [some "5"] true bare
  obtain ⟨predicate, compiled⟩ := succeeds.mpr ⟨by decide, _, inner, rfl, compiles⟩
  obtain ⟨filter, tests⟩ := means predicate _ inner compiled rfl compiles
  refine ⟨bare, predicate, inner, compiled, compiles, filter, ?_⟩
  exact (tests Shop.order).1.trans (Bool.true_xor _)

end Clause

end TypedQuery
