import TypedQuery.Proofs.Where.Composition

/-! Types of filters. A store that reads a filter relies on its paths to lead where the filter needs
them to, and on its operands to be values of the kind that is at the path. The filter of every accepted
where tree is typed like that, at every depth and inside every bracket.
-/

namespace TypedQuery

-----------------------------------------------------------------------------------------
-- Operands of a kind
-----------------------------------------------------------------------------------------

namespace Kind

/-- The values that a comparison can be made with, for each kind. NaN is not among them, and of an
enumeration only the numbers of its variants are. -/
inductive Denoted : Kind → Value → Prop
  | text (text : String) : Denoted .text (.text text)
  | integer (number : Int64) : Denoted .integer (.number (.signed number))
  | unsigned (number : UInt64) : Denoted .unsigned (.number (.unsigned number))
  | float (number : Binary64) (isNumber : number.isNaN = false)
    : Denoted .float (.number (.float number))
  | flag (flag : Bool) : Denoted .flag (.flag flag)
  | instant (instant : Instant) : Denoted .instant (.instant instant)
  | date (date : Date) : Denoted .date (.date date)
  | uuid (uuid : Uuid) : Denoted .uuid (.uuid uuid)
  | variant {enumeration : Enumeration} {name : String} {number : UInt32}
    (declared : (name, number) ∈ enumeration.variants)
    : Denoted (.variant enumeration) (.variant number)

/-- The operands of comparisons with a value of a kind; null is one if the value can be null. -/
def Takes (kind : Kind) (nullable : Bool) (operand : Value) : Prop :=
  (operand = .null ∧ nullable = true) ∨ kind.Denoted operand

/-- A text denotes a variant by its name or by a number that some variant has. -/
theorem declared_of_variantOfText? {enumeration : Enumeration} {text : List Char} {number : UInt32}
    (denotes : variantOfText? enumeration text = some number)
    : ∃ name, (name, number) ∈ enumeration.variants := by
  unfold variantOfText? at denotes
  split at denotes
  · next named =>
    cases denotes
    obtain ⟨variant, found, rfl⟩ := Option.map_eq_some_iff.mp named
    exact ⟨variant.1, List.mem_of_find?_eq_some found⟩
  · have numbered : enumeration.hasNumber number = true := (Option.filter_eq_some_iff.mp denotes).2
    obtain ⟨variant, among, same⟩ := List.any_eq_true.mp numbered
    exact ⟨variant.1, beq_iff_eq.mp same ▸ among⟩

/-- What a text denotes as a value of a kind is of that kind. -/
theorem denoted_of_valueOfText? {kind : Kind} {raw : String} {operand : Value}
    (denotes : kind.valueOfText? raw = some operand)
    : kind.Denoted operand := by
  cases kind <;> simp only [valueOfText?, Option.map_eq_some_iff, Option.some.injEq] at denotes
  case text => exact denotes ▸ .text raw
  case integer => exact denotes.elim fun number denotes => denotes.2 ▸ .integer number
  case unsigned => exact denotes.elim fun number denotes => denotes.2 ▸ .unsigned number
  case float =>
    obtain ⟨number, read, rfl⟩ := denotes
    have isNumber : (!number.isNaN) = true := (Option.filter_eq_some_iff.mp read).2
    exact .float number (by simpa using isNumber)
  case flag => exact denotes.elim fun flag denotes => denotes.2 ▸ .flag flag
  case instant => exact denotes.elim fun instant denotes => denotes.2 ▸ .instant instant
  case date => exact denotes.elim fun date denotes => denotes.2 ▸ .date date
  case uuid => exact denotes.elim fun uuid denotes => denotes.2 ▸ .uuid uuid
  case variant enumeration =>
    obtain ⟨number, read, rfl⟩ := denotes
    obtain ⟨name, declared⟩ := declared_of_variantOfText? read
    exact .variant declared

/-- A token that denotes a value denotes an operand of the kind. A null token does so for values that
can be null, among them all texts. -/
theorem takes_of_convert {kind : Kind} {nullable : Bool} {token : Token} {operand : Value}
    (converted : kind.convert nullable token = .ok operand)
    : kind.Takes (nullable || kind == .text) operand := by
  cases token with
  | none =>
      simp only [convert] at converted
      split at converted
      · next allowed =>
        cases converted
        exact .inl ⟨rfl, allowed⟩
      · cases converted
  | some raw =>
      exact .inr (denoted_of_valueOfText? (convert_some_eq_ok.mp converted))

/-- Tokens that denote values denote operands of the kind. -/
theorem takes_of_convertAll {kind : Kind} {nullable : Bool} {tokens : List Token}
    {operands : List Value} (converted : kind.convertAll nullable tokens = .ok operands)
    {operand : Value} (member : operand ∈ operands)
    : kind.Takes (nullable || kind == .text) operand := by
  obtain ⟨token, -, converts⟩ := exists_of_mem_right (convertAll_eq_ok.mp converted) member
  exact takes_of_convert converts

end Kind

-----------------------------------------------------------------------------------------
-- Operators and the families that they are for
-----------------------------------------------------------------------------------------

/-- The operator asks for the order of two values. -/
def CompareOp.isOrdering : CompareOp → Bool
  | .gt | .gte | .lt | .lte => true
  | .eq | .ne => false

namespace Comparison

/-- What compiles into an operator for an order applies to ordered values only. -/
theorem ordered_of_compareOp? {comparison : Comparison} {op : CompareOp} {family : Family}
    (compares : comparison.compareOp? = some op) (applies : comparison.appliesTo family = true)
    (ordering : op.isOrdering = true)
    : family = .ordered := by
  cases comparison <;> cases compares <;> cases ordering <;> cases family <;>
    first | rfl | cases applies

/-- A range applies to ordered values only. -/
theorem ordered_of_between {family : Family} (applies : between.appliesTo family = true)
    : family = .ordered := by
  cases family <;> first | rfl | cases applies

/-- A search or a pattern applies to texts only. -/
theorem text_of_isTextual {comparison : Comparison} {family : Family}
    (textual : comparison.isTextual = true) (applies : comparison.appliesTo family = true)
    : family = .text := by
  cases family <;> simp_all [appliesTo]

theorem isTextual_of_textOp? {comparison : Comparison} {op : TextOp}
    (searches : comparison.textOp? = some op)
    : comparison.isTextual = true := by
  cases comparison <;> cases searches <;> rfl

end Comparison

-----------------------------------------------------------------------------------------
-- Typed filters
-----------------------------------------------------------------------------------------

/-- The filters that can be read against the items of a type. Paths lead to a value, and inside `any`
they start from the elements of a collection. Orders are asked of ordered values, searches and patterns
of texts, and operands are of the kind of the value. A constant is never true, and no condition is
known by name only. -/
inductive Filter.WellTyped (schema : Schema) : schema.Ty → Filter → Prop
  | never {owner} : WellTyped schema owner (.constant false)
  | compare {owner path accessor kind op operand}
    (resolved : Accessor.resolve schema owner path = .ok accessor)
    (reads : accessor.kind? = some kind)
    (ordered : op.isOrdering = true → kind.family = .ordered)
    (takes : kind.Takes accessor.isNullable operand)
    : WellTyped schema owner (.compare path op operand)
  | text {owner path accessor op needle}
    (resolved : Accessor.resolve schema owner path = .ok accessor)
    (reads : accessor.kind? = some .text)
    : WellTyped schema owner (.text path op needle)
  | like {owner path accessor pattern}
    (resolved : Accessor.resolve schema owner path = .ok accessor)
    (reads : accessor.kind? = some .text)
    : WellTyped schema owner (.like path pattern)
  | isIn {owner path accessor kind operands}
    (resolved : Accessor.resolve schema owner path = .ok accessor)
    (reads : accessor.kind? = some kind)
    (takes : ∀ operand ∈ operands, kind.Takes accessor.isNullable operand)
    : WellTyped schema owner (.isIn path operands)
  | any {owner path element gather filter}
    (reached : schema.collectionAt? owner (Path.names path) = some ⟨element, gather⟩)
    (within : WellTyped schema element filter)
    : WellTyped schema owner (.any path filter)
  | not {owner filter} (inner : WellTyped schema owner filter)
    : WellTyped schema owner (.not filter)
  | and {owner left right} (first : WellTyped schema owner left)
    (second : WellTyped schema owner right)
    : WellTyped schema owner (.and left right)
  | or {owner left right} (first : WellTyped schema owner left)
    (second : WellTyped schema owner right)
    : WellTyped schema owner (.or left right)

/-- Every way to compile a comparison on the value at a path makes a typed filter. A range asks for an
order in both its bounds, or is one value. -/
theorem Filter.wellTyped_of_built {schema : Schema} {owner : schema.Ty} {path : String}
    {kind : Kind} {nullable : Bool} {read : schema.Item owner → Value} {comparison : Comparison}
    {tokens : List Token} {predicate : Predicate (schema.Item owner)}
    (resolved : TypedQuery.resolve schema owner path = .ok (.value kind nullable read))
    (applies : comparison.appliesTo kind.family = true)
    (built : ReadValue.Built ⟨path, kind, nullable, read⟩ tokens comparison predicate)
    : predicate.filter.WellTyped schema owner := by
  have leads := Accessor.resolve_eq_ok.mpr ⟨_, resolved, rfl⟩
  cases built with
  | isIn converted => exact .isIn leads rfl fun operand => Kind.takes_of_convertAll converted
  | notIn converted => exact .not (.isIn leads rfl fun operand => Kind.takes_of_convertAll converted)
  | @between tokens low high converted =>
      have ordered : kind.family = .ordered := Comparison.ordered_of_between applies
      have lower : kind.Takes (nullable || kind == .text) low :=
        Kind.takes_of_convertAll converted (by simp)
      have upper : kind.Takes (nullable || kind == .text) high :=
        Kind.takes_of_convertAll converted (by simp)
      unfold ReadValue.between
      split
      · exact .compare leads rfl (fun _ => ordered) lower
      · exact .and (.compare leads rfl (fun _ => ordered) lower)
          (.compare leads rfl (fun _ => ordered) upper)
  | text searches =>
      have texts : kind.family = .text :=
        Comparison.text_of_isTextual (Comparison.isTextual_of_textOp? searches) applies
      exact .text leads (congrArg some (Kind.eq_text_of_family texts))
  | like =>
      have texts : kind.family = .text := Comparison.text_of_isTextual rfl applies
      exact .like leads (congrArg some (Kind.eq_text_of_family texts))
  | compare compares converted =>
      exact .compare leads rfl (Comparison.ordered_of_compareOp? compares applies)
        (Kind.takes_of_convert converted)

/-- Typed filters compose. -/
theorem Filter.wellTyped_composable (schema : Schema)
    : Composable schema fun owner predicate => predicate.filter.WellTyped schema owner where
  never _ := .never
  not := .not
  and := .and
  or := .or
  any := .any
  compared := wellTyped_of_built

namespace Where

variable {schema : Schema} {owner : schema.Ty}

/-- The filter of an accepted where tree is well typed for the items that the tree is about. -/
theorem compile_filter_wellTyped {nodes : List Node} {predicate : Predicate (schema.Item owner)}
    (accepted : (compile schema owner {} nodes).outcome = .ok predicate)
    : predicate.filter.WellTyped schema owner :=
  (Filter.wellTyped_composable schema).of_compile accepted

/-- Orders without a gift of one to three pieces, or whose follow-ups have a line that is not counted
or is of nails. -/
def giftSearch : List Node :=
  [{ Node.leaf "gift.quantity" .between ["1", "3"] with negate := true, connector := .or },
    Node.group
      [((Node.leaf "followUps[lines[quantity]]" .isIn []).withTokens [none, some "5"]).joinedBy .or,
        Node.leaf "followUps[lines[article]]" .like ["n%l"]],
    Node.group []]

theorem giftSearch_filter_wellTyped
    : ∃ predicate,
        (compile Shop.schema .order {} giftSearch).outcome = .ok predicate
        ∧ predicate.filter.WellTyped Shop.schema .order := by
  obtain ⟨predicate, accepted⟩ := exists_eq_ok (by decide +kernel
    : (compile Shop.schema .order {} giftSearch).outcome.isOk = true)
  exact ⟨predicate, accepted, compile_filter_wellTyped accepted⟩

end Where

end TypedQuery
