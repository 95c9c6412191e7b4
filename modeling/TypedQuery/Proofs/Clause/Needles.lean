import TypedQuery.Proofs.Clause.Acceptance
import TypedQuery.Proofs.Clause.Pattern
import TypedQuery.Proofs.Text.Escaping

/-! Searches written as patterns. On texts, the comparison with a needle and the three searches for one can
each be written as a pattern, and both ways keep the same items: those that read null, those of which no
element has the needle, and all others.
-/

namespace TypedQuery

/-- Both results are predicates, and these keep the same items. -/
def KeepTheSame {ε α : Type} (first second : Except ε (Predicate α)) : Prop :=
  ∃ one other, first = .ok one ∧ second = .ok other ∧ ∀ item, one.test item = other.test item

-----------------------------------------------------------------------------------------
-- Texts that are read
-----------------------------------------------------------------------------------------

/-- The pattern of the texts in which a search finds the needle. -/
def TextOp.pattern (op : TextOp) (needle : String) : String :=
  match op with
  | .contains => "%" ++ Text.escape needle ++ "%"
  | .startsWith => Text.escape needle ++ "%"
  | .endsWith => "%" ++ Text.escape needle

/-- A search finds its needle in the texts that its pattern matches. -/
theorem TextOp.holds_iff_matches {op : TextOp} {content needle : String}
    : op.holds content needle = true ↔ Text.Matches (op.pattern needle).toList content.toList := by
  cases op <;> simp only [holds, pattern, String.toList_append, Text.toList_escape]
  case contains => exact Text.contains_iff.trans Text.matches_percent_literal_percent_iff.symm
  case startsWith => exact Text.startsWith_iff.trans Text.matches_literal_percent_iff.symm
  case endsWith => exact Text.endsWith_iff.trans Text.matches_percent_literal_iff.symm

/-- A value equals a text only if it is that text. -/
theorem Value.equals_text_iff {field : Value} {needle : String}
    : field.equals (.text needle) = true ↔ field = .text needle := by
  cases field with
  | text content => simp [equals, compare?]
  | number | instant | date | variant | flag | uuid | null => simp [equals, compare?]

namespace ReadValue

variable {α : Type} {value : ReadValue α}

/-- Only a text is searched for a needle. -/
theorem text_test_iff {op : TextOp} {needle : String} {item : α}
    : (value.text op needle).test item = true
      ↔ ∃ content, value.read item = .text content ∧ op.holds content needle = true := by
  cases reading : value.read item with
  | text content => simp [text, reading, Value.text?]
  | number | instant | date | variant | flag | uuid | null => simp [text, reading, Value.text?]

/-- A search for a needle is a pattern. -/
theorem keepTheSame_search (texts : value.kind = .text) {comparison : Comparison} {op : TextOp}
    (searches : comparison.textOp? = some op) (needle : String)
    : KeepTheSame (value.predicate .like [some (op.pattern needle)])
        (value.predicate comparison [some needle]) := by
  have applies : comparison.appliesTo value.kind.family = true := by
    rw [texts]
    cases comparison <;> cases searches <;> rfl
  refine ⟨_, _, predicate_eq_ok.mpr ⟨by rw [texts]; rfl, .like⟩,
    predicate_eq_ok.mpr ⟨applies, .text searches⟩, fun item => ?_⟩
  rw [Bool.eq_iff_iff, like_test_iff, text_test_iff]
  simp only [TextOp.holds_iff_matches]

/-- The comparison with a needle is a pattern. -/
theorem keepTheSame_equal (texts : value.kind = .text) (needle : String)
    : KeepTheSame (value.predicate .like [some (Text.escape needle)])
        (value.predicate .equal [some needle]) := by
  have converted : value.kind.convert value.nullable (some needle) = .ok (.text needle) := by
    rw [texts]
    rfl
  refine ⟨_, _, predicate_eq_ok.mpr ⟨by rw [texts]; rfl, .like⟩,
    predicate_eq_ok.mpr ⟨by rw [texts]; rfl, .compare rfl converted⟩, fun item => ?_⟩
  rw [Bool.eq_iff_iff, like_test_iff, Text.toList_escape]
  simp only [Text.matches_literal_iff, String.toList_inj, compare, CompareOp.holds,
    Value.equals_text_iff, exists_eq_right]

end ReadValue

-----------------------------------------------------------------------------------------
-- Texts inside brackets
-----------------------------------------------------------------------------------------

variable {schema : Schema} {owner : schema.Ty}

/-- Comparisons that keep the same texts wherever a text is read keep the same items on a path to texts, by
induction on where the path leads. -/
theorem Target.keepTheSame_predicate {first second : Comparison} {tokens others : List Token}
    (agree
      : ∀ {α : Type} (value : ReadValue α), value.kind = .text →
          KeepTheSame (value.predicate first tokens) (value.predicate second others))
    {target : Target schema owner} (texts : target.operand.1 = .text) (path : String)
    : KeepTheSame (target.predicate first tokens path) (target.predicate second others path) := by
  induction target generalizing path with
  | value kind nullable read => exact agree ⟨path, kind, nullable, read⟩ texts
  | elements dotted element gather elementPath inner ih =>
      obtain ⟨one, other, makesOne, makesOther, same⟩ := ih texts elementPath
      refine ⟨_, _, predicate_elements_eq_ok.mpr ⟨one, makesOne, rfl⟩,
        predicate_elements_eq_ok.mpr ⟨other, makesOther, rfl⟩, fun item => ?_⟩
      have tests : one.test = other.test := funext same
      simp only [Predicate.any, tests]

namespace Clause

/-- Clauses that differ in their comparisons alone keep the same items if the comparisons do, negated or
not. -/
theorem keepTheSame_compile {first second : Comparison} {tokens others : List Token} {path : String}
    {target : Target schema owner} (leads : resolve schema owner path = .ok target)
    (agree
      : KeepTheSame (target.predicate first tokens path) (target.predicate second others path))
    (negate : Bool)
    : KeepTheSame (Clause.compile schema owner ⟨path, first, tokens, negate⟩)
        (Clause.compile schema owner ⟨path, second, others, negate⟩) := by
  obtain ⟨one, other, makesOne, makesOther, same⟩ := agree
  refine ⟨_, _, compile_eq_ok.mpr ⟨target, one, leads, makesOne, rfl⟩,
    compile_eq_ok.mpr ⟨target, other, leads, makesOther, rfl⟩, fun item => ?_⟩
  cases negate with
  | false => exact same item
  | true => exact congrArg Bool.not (same item)

/-- On a path to texts, inside brackets or not, a needle that is escaped is a pattern for the comparison with
the needle, and with percent signs after it, before it or on both sides for the three searches. Each pair
of clauses compiles and keeps the same items, negated or not, whatever the needle is and whatever is
read. -/
theorem compile_like_escape (schema : Schema) (owner : schema.Ty) (path : String)
    (target : Target schema owner) (leads : resolve schema owner path = .ok target)
    (texts : target.operand.1 = .text) (needle : String) (negate : Bool)
    : KeepTheSame
        (Clause.compile schema owner ⟨path, .like, [some (Text.escape needle)], negate⟩)
        (Clause.compile schema owner ⟨path, .equal, [some needle], negate⟩)
      ∧ KeepTheSame
          (Clause.compile schema owner ⟨path, .like, [some (Text.escape needle ++ "%")], negate⟩)
          (Clause.compile schema owner ⟨path, .startsWith, [some needle], negate⟩)
      ∧ KeepTheSame
          (Clause.compile schema owner ⟨path, .like, [some ("%" ++ Text.escape needle)], negate⟩)
          (Clause.compile schema owner ⟨path, .endsWith, [some needle], negate⟩)
      ∧ KeepTheSame
          (Clause.compile schema owner
            ⟨path, .like, [some ("%" ++ Text.escape needle ++ "%")], negate⟩)
          (Clause.compile schema owner ⟨path, .contains, [some needle], negate⟩) := by
  have search (comparison : Comparison) (op : TextOp) (searches : comparison.textOp? = some op)
      : KeepTheSame
          (Clause.compile schema owner ⟨path, .like, [some (op.pattern needle)], negate⟩)
          (Clause.compile schema owner ⟨path, comparison, [some needle], negate⟩) :=
    keepTheSame_compile leads
      (Target.keepTheSame_predicate
        (fun _ read => ReadValue.keepTheSame_search read searches needle) texts path) negate
  refine ⟨?_, search .startsWith .startsWith rfl, search .endsWith .endsWith rfl,
    search .contains .contains rfl⟩
  exact keepTheSame_compile leads
    (Target.keepTheSame_predicate (fun _ read => ReadValue.keepTheSame_equal read needle) texts path)
    negate

/-- A gift sold off by a percentage is found by a pattern in which the percent sign is escaped, and an order
without a gift is not found. -/
theorem compile_like_escape_discount
    : ∃ target,
        resolve Shop.schema .order "gift.article" = .ok target
        ∧ target.operand.1 = .text
        ∧ ∃ predicate,
            Clause.compile Shop.schema .order
                ⟨"gift.article", .like, [some "%-5\\%\\_\\\\%"], false⟩ = .ok predicate
            ∧ predicate.test (orderWithGift "hook -5%_\\ off") = true
            ∧ predicate.test (orderWithGift "hook -50_\\ off") = false
            ∧ predicate.test Shop.order = false := by
  have parsed : Path.parse "gift.article" = .ok ⟨["gift", "article"], none⟩ := rfl
  have leads : resolve Shop.schema .order "gift.article" = .ok _ :=
    Follows.resolve_eq_ok parsed (.optionalObject rfl (.value rfl rfl))
  obtain ⟨-, -, -, predicate, search, compiled, searched, same⟩ :=
    compile_like_escape Shop.schema .order "gift.article" _ leads rfl "-5%_\\" false
  obtain rfl := Except.ok.inj
    (((compile_of_value leads).mpr ⟨rfl, .text rfl⟩).symm.trans searched)
  refine ⟨_, leads, rfl, predicate, compiled, (same _).trans ?_, (same _).trans ?_,
    (same _).trans ?_⟩
  all_goals decide +kernel

end Clause

end TypedQuery
