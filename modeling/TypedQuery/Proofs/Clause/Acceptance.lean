import TypedQuery.Proofs.Clause.Elements

/-! Which clauses are accepted. A clause must have a path that resolves, a comparison that goes with the
value at the end of it and with the number of tokens, and tokens that denote values. The first of these
that it lacks is its fault, whatever else is wrong with it, and however many brackets its path has.
-/

namespace TypedQuery

-----------------------------------------------------------------------------------------
-- Comparisons, kinds and tokens
-----------------------------------------------------------------------------------------

namespace Comparison

/-- The families of values that a comparison is for. -/
def families : Comparison → List Family
  | .equal | .notEqual | .isIn | .notIn => [.text, .ordered, .equatable]
  | .greaterThan | .greaterThanOrEqual | .lessThan | .lessThanOrEqual | .between => [.ordered]
  | .contains | .startsWith | .endsWith | .like => [.text]

theorem appliesTo_iff {comparison : Comparison} {family : Family}
    : comparison.appliesTo family = true ↔ family ∈ comparison.families := by
  cases comparison <;> cases family <;> decide

/-- The comparison goes with so many tokens: two are the bounds of a range, a membership has any number
of them, and all else has one. -/
def TakesCount (comparison : Comparison) (count : Nat) : Prop :=
  match comparison with
  | .isIn | .notIn => True
  | .between => count = 2
  | _ => count = 1

theorem accepts_iff {comparison : Comparison} {count : Nat}
    : comparison.accepts count = true ↔ comparison.TakesCount count := by
  cases comparison <;> simp [accepts, arity, TakesCount]

/-- The comparison cannot be made with a value of the kind and these tokens, whatever the tokens denote:
it is not for such values, or not with so many tokens, or a text would have to be searched for null. -/
inductive Misplaced (comparison : Comparison) (kind : Kind) (tokens : List Token) : Prop where
  | family (excluded : kind.family ∉ comparison.families)
  | count (miscounted : ¬ comparison.TakesCount tokens.length)
  | null (searches : comparison ∈ [.contains, .startsWith, .endsWith, .like])
      (among : none ∈ tokens)

/-- Nothing is misplaced that has none of the three faults. -/
theorem not_misplaced {comparison : Comparison} {kind : Kind} {tokens : List Token}
    (suits : kind.family ∈ comparison.families) (counted : comparison.TakesCount tokens.length)
    (filled : comparison ∈ [.contains, .startsWith, .endsWith, .like] → none ∉ tokens)
    : ¬ comparison.Misplaced kind tokens := by
  rintro (excluded | miscounted | ⟨searches, among⟩)
  · exact excluded suits
  · exact miscounted counted
  · exact filled searches among

end Comparison

namespace Kind

variable {kind : Kind} {nullable : Bool} {tokens : List Token} {token : Token}

/-- The token denotes a value of the kind, or null where that is allowed. -/
def Converts (kind : Kind) (nullable : Bool) (token : Token) : Prop :=
  ∃ value, kind.convert nullable token = .ok value

/-- The token is the first one that denotes no value of the kind. -/
def FirstUnconvertible (kind : Kind) (nullable : Bool) (tokens : List Token) (token : Token)
    : Prop :=
  ∃ before after, tokens = before ++ token :: after
    ∧ (∀ earlier ∈ before, kind.Converts nullable earlier)
    ∧ ¬ kind.Converts nullable token

/-- Null can be meant where the value can be null, and for every text. -/
theorem converts_null_iff : kind.Converts nullable none ↔ nullable = true ∨ kind = .text := by
  unfold Converts convert
  dsimp only
  split <;> simp_all

/-- Every text denotes itself, and null can be meant as well. -/
theorem converts_text : Kind.text.Converts nullable token := by
  cases token with
  | none => exact converts_null_iff.mpr (.inr rfl)
  | some raw => exact ⟨.text raw, rfl⟩

/-- A token that denotes no value is what is at fault. -/
theorem convert_eq_error {fault : Fault}
    : kind.convert nullable token = .error fault
      ↔ fault = .unconvertible token kind ∧ ¬ kind.Converts nullable token := by
  have refused {fault : Fault} (fails : kind.convert nullable token = .error fault)
      : fault = .unconvertible token kind := by
    unfold convert at fails
    split at fails
    · split at fails <;> cases fails
      rfl
    · split at fails <;> cases fails
      rfl
  constructor
  · intro fails
    refine ⟨refused fails, ?_⟩
    rintro ⟨value, converted⟩
    rw [converted] at fails
    cases fails
  · rintro ⟨rfl, unconverted⟩
    cases converted : kind.convert nullable token with
    | ok value => exact absurd ⟨value, converted⟩ unconverted
    | error fault => rw [refused converted]

/-- Tokens have their first one at fault, unless all denote values. -/
theorem convertAll_eq_error {fault : Fault}
    : kind.convertAll nullable tokens = .error fault
      ↔ ∃ token, fault = .unconvertible token kind
          ∧ kind.FirstUnconvertible nullable tokens token := by
  rw [convertAll, mapM_eq_error]
  constructor
  · rintro ⟨before, token, after, rfl, converted, fails⟩
    obtain ⟨rfl, unconverted⟩ := convert_eq_error.mp fails
    exact ⟨token, rfl, before, after, rfl, converted, unconverted⟩
  · rintro ⟨token, rfl, before, after, rfl, converted, unconverted⟩
    exact ⟨before, token, after, rfl, converted, convert_eq_error.mpr ⟨rfl, unconverted⟩⟩

/-- The first token that denotes no value is among the tokens. -/
theorem FirstUnconvertible.not_all (first : kind.FirstUnconvertible nullable tokens token)
    : ¬ ∀ token ∈ tokens, kind.Converts nullable token := by
  obtain ⟨before, after, rfl, -, unconverted⟩ := first
  intro all
  exact unconverted (all token (by simp))

/-- There is only one first token that denotes no value. -/
theorem FirstUnconvertible.eq {other : Token}
    (first : kind.FirstUnconvertible nullable tokens token)
    (again : kind.FirstUnconvertible nullable tokens other)
    : token = other := by
  have fails : kind.convertAll nullable tokens = .error (.unconvertible token kind) :=
    convertAll_eq_error.mpr ⟨token, rfl, first⟩
  obtain ⟨unique, same, -⟩ := convertAll_eq_error.mp fails
  have failsAgain : kind.convertAll nullable tokens = .error (.unconvertible other kind) :=
    convertAll_eq_error.mpr ⟨other, rfl, again⟩
  cases fails.symm.trans failsAgain
  rfl

end Kind

-----------------------------------------------------------------------------------------
-- The judgement of a comparison
-----------------------------------------------------------------------------------------

/-- How a comparison is judged where it is made on a value of a kind: what is misplaced is invalid, what
is not but has a token without a value is at fault for the first such token, and all else is accepted. -/
inductive Judged {β : Type} (kind : Kind) (nullable : Bool) (comparison : Comparison)
    (tokens : List Token)
    : Except Fault β → Prop
  | invalid {fault} (misplaced : comparison.Misplaced kind tokens)
    : Judged kind nullable comparison tokens (.error (.invalid fault))
  | unconvertible {token} (placed : ¬ comparison.Misplaced kind tokens)
    (first : kind.FirstUnconvertible nullable tokens token)
    : Judged kind nullable comparison tokens (.error (.unconvertible token kind))
  | accepted {value} (placed : ¬ comparison.Misplaced kind tokens)
    (converts : ∀ token ∈ tokens, kind.Converts nullable token)
    : Judged kind nullable comparison tokens (.ok value)

namespace Judged

variable {α β : Type} {kind : Kind} {nullable : Bool} {comparison : Comparison}
  {tokens : List Token}

/-- What is made of an accepted comparison afterwards changes nothing. -/
theorem map {result : Except Fault α} (judged : Judged kind nullable comparison tokens result)
    (change : α → β)
    : Judged kind nullable comparison tokens (result >>= fun value => .ok (change value)) := by
  cases judged with
  | invalid misplaced => exact .invalid misplaced
  | unconvertible placed first => exact .unconvertible placed first
  | accepted placed converts => exact .accepted placed converts

/-- The check of the family in front decides whether the comparison is for such values. -/
theorem of_checkFamily {next : Except Fault α}
    (judged
      : kind.family ∈ comparison.families → Judged kind nullable comparison tokens next)
    : Judged kind nullable comparison tokens (comparison.checkFamily kind.family >>= fun _ => next)
    := by
  by_cases applies : comparison.appliesTo kind.family = true
  · rw [Comparison.checkFamily_eq_ok.mpr applies, ok_bind]
    exact judged (Comparison.appliesTo_iff.mp applies)
  · rw [Comparison.checkFamily, if_neg applies]
    exact .invalid (.family (mt Comparison.appliesTo_iff.mpr applies))

/-- The check of the count in front decides whether the comparison goes with so many tokens. -/
theorem of_checkCount {next : Except Fault α}
    (judged
      : comparison.TakesCount tokens.length → Judged kind nullable comparison tokens next)
    : Judged kind nullable comparison tokens
        (comparison.checkCount tokens.length >>= fun _ => next) := by
  by_cases counted : comparison.accepts tokens.length = true
  · rw [Comparison.checkCount_eq_ok.mpr counted, ok_bind]
    exact judged (Comparison.accepts_iff.mp counted)
  · rw [Comparison.checkCount, if_neg counted]
    exact .invalid (.count (mt Comparison.accepts_iff.mpr counted))

/-- The conversion of the tokens in front decides whether all of them denote values. -/
theorem of_convertAll (placed : ¬ comparison.Misplaced kind tokens)
    {next : List Value → Except Fault α}
    (succeeds
      : ∀ operands, operands.length = tokens.length → ∃ value, next operands = .ok value)
    : Judged kind nullable comparison tokens (kind.convertAll nullable tokens >>= next) := by
  cases converted : kind.convertAll nullable tokens with
  | error fault =>
      obtain ⟨token, rfl, first⟩ := Kind.convertAll_eq_error.mp converted
      exact .unconvertible placed first
  | ok operands =>
      have pairs := Kind.convertAll_eq_ok.mp converted
      obtain ⟨value, made⟩ := succeeds operands pairs.length_eq.symm
      rw [ok_bind, made]
      refine .accepted placed fun token member => ?_
      obtain ⟨operand, -, converts⟩ := exists_of_mem_right pairs.flip member
      exact ⟨operand, converts⟩

/-- The conversion of the one token decides whether it denotes a value. -/
theorem of_convert {token : Token} (placed : ¬ comparison.Misplaced kind [token])
    (change : Value → α)
    : Judged kind nullable comparison [token]
        (kind.convert nullable token >>= fun operand => .ok (change operand)) := by
  cases converted : kind.convert nullable token with
  | error fault =>
      obtain ⟨rfl, unconverted⟩ := Kind.convert_eq_error.mp converted
      exact .unconvertible placed ⟨[], [], rfl, by simp, unconverted⟩
  | ok operand =>
      refine .accepted placed fun other member => ?_
      obtain rfl := List.mem_singleton.mp member
      exact ⟨operand, converted⟩

/-- The demand for a text decides whether null is searched for. Every text denotes itself. -/
theorem of_requireText {token : Token} (texts : kind = .text)
    (searches : comparison ∈ [.contains, .startsWith, .endsWith, .like])
    (placed : none ∉ [token] → ¬ comparison.Misplaced kind [token]) (change : String → α)
    : Judged kind nullable comparison [token]
        (comparison.requireText token >>= fun text => .ok (change text)) := by
  cases token with
  | none => exact .invalid (.null searches (by simp))
  | some text =>
      refine .accepted (placed (by simp)) fun other _ => ?_
      exact texts ▸ Kind.converts_text

variable {result : Except Fault α}

/-- What is judged invalid is misplaced, and the other way round. -/
theorem invalid_iff (judged : Judged kind nullable comparison tokens result)
    : (∃ fault, result = .error (.invalid fault)) ↔ comparison.Misplaced kind tokens := by
  cases judged with
  | invalid misplaced => simp [misplaced]
  | unconvertible placed first => simp [placed]
  | accepted placed converts => simp [placed]

/-- A token is at fault exactly if nothing is misplaced and it is the first without a value. -/
theorem unconvertible_iff {token : Token} {target : Kind}
    (judged : Judged kind nullable comparison tokens result)
    : result = .error (.unconvertible token target)
      ↔ ¬ comparison.Misplaced kind tokens ∧ target = kind
        ∧ kind.FirstUnconvertible nullable tokens token := by
  cases judged with
  | invalid misplaced => simp [misplaced]
  | accepted placed converts =>
      simp only [reduceCtorEq, false_iff, not_and]
      exact fun _ _ first => first.not_all converts
  | unconvertible placed first =>
      constructor
      · intro same
        cases same
        exact ⟨placed, rfl, first⟩
      · rintro ⟨-, rfl, again⟩
        rw [first.eq again]

/-- A comparison is accepted exactly if nothing is misplaced and every token denotes a value. -/
theorem accepted_iff (judged : Judged kind nullable comparison tokens result)
    : (∃ value, result = .ok value)
      ↔ ¬ comparison.Misplaced kind tokens ∧ ∀ token ∈ tokens, kind.Converts nullable token := by
  cases judged with
  | invalid misplaced => simp [misplaced]
  | unconvertible placed first =>
      simp only [reduceCtorEq, exists_false, false_iff, not_and]
      exact fun _ => first.not_all
  | accepted placed converts => simpa [placed] using converts

end Judged

-----------------------------------------------------------------------------------------
-- Comparisons are judged by their kind and their tokens
-----------------------------------------------------------------------------------------

namespace ReadValue

variable {α : Type} (value : ReadValue α) (comparison : Comparison) (tokens : List Token)

/-- A comparison that takes a single token searches for it or compares with it. -/
theorem judged_single (arity : comparison.arity = .single)
    (suits : value.kind.family ∈ comparison.families)
    : Judged value.kind value.nullable comparison tokens (value.single comparison tokens) := by
  unfold single
  rw [Comparison.checkSingle_eq_ok.mpr ⟨Comparison.appliesTo_iff.mpr suits, arity⟩, ok_bind]
  refine .of_checkCount fun counted => ?_
  obtain ⟨token, rfl⟩ := (Comparison.accepts_single arity).mp (Comparison.accepts_iff.mpr counted)
  cases comparison
  case isIn | notIn | between => cases arity
  case contains | startsWith | endsWith | like =>
    have texts : value.kind = .text := Kind.eq_text_of_family (List.mem_singleton.mp suits)
    refine .of_requireText texts (by decide) (fun filled => ?_) _
    exact Comparison.not_misplaced suits counted fun _ => filled
  all_goals
    exact .of_convert (Comparison.not_misplaced suits counted (absurd · (by decide))) _

/-- A comparison with a value is judged by the kind of the value, by cases on whether it takes a list, a
pair or a single token. -/
theorem judged_predicate
    : Judged value.kind value.nullable comparison tokens (value.predicate comparison tokens) := by
  unfold ReadValue.predicate
  refine .of_checkFamily fun suits => ?_
  cases comparison
  case isIn | notIn =>
    refine .of_convertAll (Comparison.not_misplaced suits trivial (absurd · (by decide))) ?_
    exact fun operands _ => ⟨_, rfl⟩
  case between =>
    refine .of_checkCount fun counted => ?_
    refine .of_convertAll (Comparison.not_misplaced suits counted (absurd · (by decide))) ?_
    intro operands length
    obtain ⟨low, high, rfl⟩ := List.length_eq_two.mp (length.trans counted)
    exact ⟨_, rfl⟩
  all_goals exact value.judged_single _ tokens rfl suits

end ReadValue

-----------------------------------------------------------------------------------------
-- Paths that do not resolve
-----------------------------------------------------------------------------------------

section Unresolved

variable {schema : Schema} {owner : schema.Ty} {raw : String} {path : Path} {fault : Fault}
  {descend : (element : schema.Ty) → Except Fault (String × Target schema element)}

/-- Names that cannot be followed leave a path unresolved, by induction on the names. -/
theorem unresolved_of_followSegments {names : List String}
    (within
      : ∀ element fault, descend element = .error fault →
          ∃ typeName text flaw, fault = .unresolved typeName text flaw)
    (fails : followSegments schema raw path descend owner names = .error fault)
    : ∃ typeName text flaw, fault = .unresolved typeName text flaw := by
  induction names generalizing owner with
  | nil =>
      cases fails
      exact ⟨_, _, _, rfl⟩
  | cons name rest ih =>
      unfold followSegments at fails
      dsimp only at fails
      split at fails
      · cases fails
        exact ⟨_, _, _, rfl⟩
      · split at fails
        · cases fails
          exact ⟨_, _, _, rfl⟩
        · split at fails <;> cases fails
          exact ⟨_, _, _, rfl⟩
      · split at fails
        · exact ih (map_eq_error.mp fails)
        · split at fails <;> cases fails <;> exact ⟨_, _, _, rfl⟩
      · split at fails
        · exact ih (map_eq_error.mp fails)
        · split at fails <;> cases fails <;> exact ⟨_, _, _, rfl⟩
      · split at fails
        · exact within _ _ (map_eq_error.mp fails)
        · cases fails
          exact ⟨_, _, _, rfl⟩

end Unresolved

/-- A path that cannot be resolved is at fault as one, wherever that shows. By induction on the length
of the path: what is in its bracket is shorter. -/
theorem unresolved_of_resolve {schema : Schema} {owner : schema.Ty} {raw : String} {fault : Fault}
    (fails : resolve schema owner raw = .error fault)
    : ∃ typeName text flaw, fault = .unresolved typeName text flaw := by
  rw [resolve_eq] at fails
  split at fails
  · cases fails
    exact ⟨_, _, _, rfl⟩
  · next path parsed =>
    refine unresolved_of_followSegments ?_ fails
    intro element fault descends
    unfold descendInto at descends
    split at descends
    · cases descends
      exact ⟨_, _, _, rfl⟩
    · next elementPath bracketed =>
      have shorter : elementPath.length < raw.length := Path.element_length_lt parsed bracketed
      exact unresolved_of_resolve (map_eq_error.mp descends)
termination_by raw.length

-----------------------------------------------------------------------------------------
-- The value inside all brackets
-----------------------------------------------------------------------------------------

/-- The value that a target reads from what is inside all brackets: its kind, and whether it can be
null. -/
def Target.operand {schema : Schema} : {owner : schema.Ty} → Target schema owner → Kind × Bool
  | _, .value kind nullable _ => (kind, nullable)
  | _, .elements _ _ _ _ target => target.operand

/-- A comparison on a path is judged by the value inside all brackets, by induction on the brackets.
For a range the tokens are counted at each of them, with the same outcome. -/
theorem Target.judged_predicate {schema : Schema} {owner : schema.Ty} (target : Target schema owner)
    (comparison : Comparison) (tokens : List Token) (path : String)
    : Judged target.operand.1 target.operand.2 comparison tokens
        (target.predicate comparison tokens path) := by
  induction target generalizing path with
  | value kind nullable read => exact (ReadValue.mk path kind nullable read).judged_predicate _ _
  | elements dotted element gather elementPath inner ih =>
      have each : Judged inner.operand.1 inner.operand.2 comparison tokens
          (inner.predicate comparison tokens elementPath >>= fun each =>
            .ok (Predicate.any dotted gather each)) :=
        (ih elementPath).map _
      rw [Target.predicate]
      split
      · exact .of_checkCount fun _ => each
      · exact each

/-- A text that a path is made of: the path itself, or what is in a bracket of it. With it comes the type
whose items it is for, which in a bracket is that of the elements of the collection before it. -/
inductive Schema.Encloses (schema : Schema) : schema.Ty → String → schema.Ty → String → Prop where
  | whole {owner path} : schema.Encloses owner path owner path
  | bracketed {owner dotted collection element inner text} (bare : '[' ∉ dotted.toList)
      (words : "" ∉ Path.names dotted) (filled : element ≠ "")
      (reached : schema.collectionAt? owner (Path.names dotted) = some collection)
      (within : schema.Encloses collection.element element inner text)
      : schema.Encloses owner (dotted ++ "[" ++ element ++ "]") inner text

/-- The path to the quantities of the lines of follow-ups is made of two brackets. -/
theorem Shop.encloses_quantity
    : Shop.schema.Encloses .order "followUps[lines[quantity]]" .line "quantity" := by
  have lines : Shop.schema.Encloses .order ("lines" ++ "[" ++ "quantity" ++ "]") .line "quantity" :=
    .bracketed (by decide) (by decide) (by decide) rfl .whole
  have followUps
      : Shop.schema.Encloses .order ("followUps" ++ "[" ++ "lines[quantity]" ++ "]") .line
          "quantity" :=
    .bracketed (by decide) (by decide) (by decide) rfl lines
  exact followUps

/-- The text is the one inside all brackets of the path. -/
def Schema.Innermost (schema : Schema) (owner : schema.Ty) (path : String) (inner : schema.Ty)
    (text : String)
    : Prop :=
  schema.Encloses owner path inner text ∧ '[' ∉ text.toList

section Innermost

variable {schema : Schema} {owner inner : schema.Ty} {path text : String}

/-- A path that leads to elements is made of the names of their collection and of a path in a bracket
that leads on from them. -/
theorem resolve_elements_spelled {element : schema.Ty} {raw dotted elementPath : String}
    {gather : schema.Item owner → List (schema.Item element)} {within : Target schema element}
    (resolved : resolve schema owner raw = .ok (.elements dotted element gather elementPath within))
    : '[' ∉ dotted.toList ∧ "" ∉ Path.names dotted ∧ raw = dotted ++ "[" ++ elementPath ++ "]" := by
  rw [resolve_eq] at resolved
  split at resolved
  · cases resolved
  · next path parsed =>
    obtain ⟨rfl, -, descended⟩ := (follows_of_followSegments resolved).collectionAt?
    obtain ⟨bracketed, -⟩ := descendInto_eq_ok.mp descended
    obtain ⟨writable, rfl⟩ := Path.isWritable_of_parse parsed
    refine ⟨writable.bare, ?_, ?_⟩
    · rw [Path.names_intercalate_segments parsed]
      exact fun empty => (writable.words "" empty).1 rfl
    · simp only [Path.toText, bracketed]

/-- A path that resolves has a text inside all its brackets, which leads to the value there. By
induction on where the path leads. -/
theorem exists_innermost {target : Target schema owner}
    (resolved : resolve schema owner path = .ok target)
    : ∃ inner text kind nullable read, schema.Innermost owner path inner text
        ∧ resolve schema inner text = .ok (.value kind nullable read) := by
  induction target generalizing path with
  | value kind nullable read =>
      have single := (isCollection_iff_of_resolve resolved).not.mp Bool.false_ne_true
      have bare : '[' ∉ path.toList := fun opens => single (.inl opens)
      exact ⟨_, path, kind, nullable, read, ⟨.whole, bare⟩, resolved⟩
  | elements dotted element gather elementPath within ih =>
      obtain ⟨bare, words, rfl⟩ := resolve_elements_spelled resolved
      obtain ⟨reached, resolves⟩ := resolve_elements resolved
      obtain ⟨inner, text, kind, nullable, read, ⟨encloses, plain⟩, leads⟩ := ih resolves
      have filled : elementPath ≠ "" := ne_empty_of_resolve resolves
      exact ⟨inner, text, kind, nullable, read,
        ⟨.bracketed bare words filled reached encloses, plain⟩, leads⟩

/-- A text that a path is made of is about the same value as the path, by induction on the brackets. -/
theorem Schema.Encloses.operand_eq {target : Target schema owner} {within : Target schema inner}
    (encloses : schema.Encloses owner path inner text)
    (resolved : resolve schema owner path = .ok target)
    (resolves : resolve schema inner text = .ok within)
    : target.operand = within.operand := by
  induction encloses with
  | whole =>
      cases resolved.symm.trans resolves
      rfl
  | bracketed bare words filled reached encloses ih =>
      rw [resolve_bracketed bare words filled reached] at resolved
      obtain ⟨below, leads, rfl⟩ := map_eq_ok.mp resolved
      exact ih leads resolves

end Innermost

-----------------------------------------------------------------------------------------
-- The verdict on a clause
-----------------------------------------------------------------------------------------

namespace Clause

variable {schema : Schema} {owner : schema.Ty} {clause : Clause}

/-- A clause fails as its path does, or as its comparison does on what the path leads to, and the
error names the clause. -/
theorem compile_eq_error {error : QueryError}
    : clause.compile schema owner = .error error
      ↔ ∃ fault,
          (resolve schema owner clause.path >>= fun target =>
              target.predicate clause.comparison clause.tokens clause.path) = .error fault
          ∧ error = .faulty fault (some clause.context) := by
  have positive_eq
      : clause.positive schema owner
        = (resolve schema owner clause.path >>= fun target =>
            target.predicate clause.comparison clause.tokens clause.path) := by
    unfold positive Accessor.resolve
    cases resolve schema owner clause.path <;> rfl
  rw [compile, positive_eq]
  split
  · next made => simp [made]
  · next fault fails =>
    simp only [fails, QueryError.inClause, Except.error.injEq, exists_eq_left']
    exact eq_comm

/-- A clause with a path that resolves fails as its comparison does on what the path leads to. -/
theorem compile_eq_error_of_resolve {target : Target schema owner} {fault : Fault}
    (resolved : resolve schema owner clause.path = .ok target)
    : clause.compile schema owner = .error (.faulty fault (some clause.context))
      ↔ target.predicate clause.comparison clause.tokens clause.path = .error fault := by
  rw [compile_eq_error, resolved]
  simp only [ok_bind, QueryError.faulty.injEq, and_true, exists_eq_right']

/-- A clause with a path that resolves compiles exactly if its comparison can be made on what the path
leads to. -/
theorem exists_compile_eq_ok_of_resolve {target : Target schema owner}
    (resolved : resolve schema owner clause.path = .ok target)
    : (∃ predicate, clause.compile schema owner = .ok predicate)
      ↔ ∃ positive, target.predicate clause.comparison clause.tokens clause.path = .ok positive := by
  simp only [compile_eq_ok, resolved, Except.ok.injEq]
  constructor
  · rintro ⟨predicate, _, positive, rfl, made, -⟩
    exact ⟨positive, made⟩
  · rintro ⟨positive, made⟩
    exact ⟨_, _, positive, rfl, made, rfl⟩

/-- The path of a clause is at fault exactly if it does not resolve. -/
theorem compile_unresolved_iff
    : (∃ typeName path flaw,
        clause.compile schema owner
          = .error (.faulty (.unresolved typeName path flaw) (some clause.context)))
      ↔ ¬ ∃ target, resolve schema owner clause.path = .ok target := by
  constructor
  · rintro ⟨typeName, path, flaw, fails⟩ ⟨target, resolved⟩
    have judged := target.judged_predicate clause.comparison clause.tokens clause.path
    rw [(compile_eq_error_of_resolve resolved).mp fails] at judged
    cases judged
  · intro unresolved
    cases resolved : resolve schema owner clause.path with
    | ok target => exact absurd ⟨target, resolved⟩ unresolved
    | error fault =>
        obtain ⟨typeName, path, flaw, rfl⟩ := unresolved_of_resolve resolved
        refine ⟨typeName, path, flaw, compile_eq_error.mpr ⟨_, ?_, rfl⟩⟩
        rw [resolved, error_bind]

/-- A clause is judged by its path, and then by the kind of the value inside all brackets of it. It
fails for its path exactly if that does not resolve; else as invalid exactly if the comparison is not
for such values, or not with so many tokens, or a text would be searched for null; else for the first
token that denotes no such value exactly if there is one; else it compiles. -/
theorem compile_verdict (schema : Schema) (owner : schema.Ty) (clause : Clause)
    : ((∃ typeName path flaw,
          clause.compile schema owner
            = .error (.faulty (.unresolved typeName path flaw) (some clause.context)))
        ↔ ¬ ∃ target, resolve schema owner clause.path = .ok target)
      ∧ ∀ target, resolve schema owner clause.path = .ok target →
          (∃ inner text kind nullable read,
            schema.Innermost owner clause.path inner text
            ∧ resolve schema inner text = .ok (.value kind nullable read))
          ∧ ∀ inner text kind nullable read,
              schema.Innermost owner clause.path inner text →
              resolve schema inner text = .ok (.value kind nullable read) →
              (kind.Converts nullable none ↔ nullable = true ∨ kind = .text)
              ∧ ((∃ fault,
                    clause.compile schema owner
                      = .error (.faulty (.invalid fault) (some clause.context)))
                  ↔ clause.comparison.Misplaced kind clause.tokens)
              ∧ (∀ token named,
                  clause.compile schema owner
                      = .error (.faulty (.unconvertible token named) (some clause.context))
                  ↔ ¬ clause.comparison.Misplaced kind clause.tokens
                    ∧ named = kind
                    ∧ kind.FirstUnconvertible nullable clause.tokens token)
              ∧ ((∃ predicate, clause.compile schema owner = .ok predicate)
                  ↔ ¬ clause.comparison.Misplaced kind clause.tokens
                    ∧ ∀ token ∈ clause.tokens, kind.Converts nullable token) := by
  refine ⟨compile_unresolved_iff, fun target resolved => ⟨exists_innermost resolved, ?_⟩⟩
  intro inner text kind nullable read innermost leads
  have judged := target.judged_predicate clause.comparison clause.tokens clause.path
  rw [innermost.1.operand_eq resolved leads] at judged
  simp only [compile_eq_error_of_resolve resolved, exists_compile_eq_ok_of_resolve resolved]
  exact ⟨Kind.converts_null_iff, judged.invalid_iff, fun _ _ => judged.unconvertible_iff,
    judged.accepted_iff⟩

/-- Among quantities of the lines of follow-ups, the first token that is no number is named, although
a later one is none either and the clause is negated. -/
theorem compile_verdict_followUpLines
    : (∃ target, resolve Shop.schema .order "followUps[lines[quantity]]" = .ok target)
      ∧ Shop.schema.Innermost .order "followUps[lines[quantity]]" .line "quantity"
      ∧ Clause.compile Shop.schema .order
            ⟨"followUps[lines[quantity]]", .isIn, [some "5", some "x", some "y"], true⟩
          = .error (.faulty (.unconvertible (some "x") .integer)
              (some ⟨"followUps[lines[quantity]]", .isIn, true⟩)) := by
  have innermost : Shop.schema.Innermost .order "followUps[lines[quantity]]" .line "quantity" :=
    ⟨Shop.encloses_quantity, by decide⟩
  obtain ⟨target, resolved⟩ := exists_eq_ok (by decide +kernel
    : (resolve Shop.schema .order "followUps[lines[quantity]]").isOk = true)
  obtain ⟨-, judged⟩ := compile_verdict Shop.schema .order
    ⟨"followUps[lines[quantity]]", .isIn, [some "5", some "x", some "y"], true⟩
  obtain ⟨-, -, unconvertible, -⟩ :=
    (judged target resolved).2 .line "quantity" .integer true _ innermost Shop.resolve_quantity
  refine ⟨⟨target, resolved⟩, innermost, (unconvertible _ _).mpr ?_⟩
  refine ⟨?_, rfl, [some "5"], [some "y"], rfl, ?_, ?_⟩
  · exact Comparison.not_misplaced (by decide) trivial (absurd · (by decide))
  · intro earlier member
    obtain rfl := List.mem_singleton.mp member
    exact ⟨.number (.signed 5), by decide +kernel⟩
  · rintro ⟨value, converted⟩
    have fails : Kind.convert .integer true (some "x") = .error (.unconvertible (some "x") .integer) :=
      by decide +kernel
    cases fails.symm.trans converted

end Clause

end TypedQuery
