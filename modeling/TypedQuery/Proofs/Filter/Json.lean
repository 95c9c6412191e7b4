import TypedQuery.Json.Filter
import TypedQuery.Proofs.Accessor.Typing
import TypedQuery.Proofs.Filter.Agreement
import TypedQuery.Proofs.Filter.Typing
import TypedQuery.Proofs.Value.Comparison
import TypedQuery.Proofs.Value.Written

/-! Filters in JSON. Operands are written without a mark of their kind, yet what is at their path tells
the kind, so the JSON of a filter determines what the filter says. Infinite operands are left out of
this: they are written as null is.
-/

namespace TypedQuery

-----------------------------------------------------------------------------------------
-- Equal JSON
-----------------------------------------------------------------------------------------

namespace Json

/-- The values are equal, floating-point numbers being compared as numbers: the two zeros are one. -/
inductive Same : Json → Json → Prop
  | refl (json : Json) : Same json json
  | float {left right : Binary64} (equal : left.compare? right = some .eq)
    : Same (.float left) (.float right)
  | array {left right : List Json} (items : List.Forall₂ Same left right)
    : Same (.array left) (.array right)
  | object {left right : List (String × Json)} (names : left.map Prod.fst = right.map Prod.fst)
    (values : List.Forall₂ Same (left.map Prod.snd) (right.map Prod.snd))
    : Same (.object left) (.object right)

/-- The value has no floating-point numbers in it, since it has no parts and is none itself. -/
def isPlain : Json → Bool
  | .null | .bool _ | .integer _ | .string _ => true
  | .float _ | .array _ | .object _ => false

/-- Plain values are the same as themselves only. -/
theorem same_iff_eq {left right : Json} (plain : left.isPlain = true ∨ right.isPlain = true)
    : Same left right ↔ left = right := by
  constructor
  · intro same
    cases same with
    | refl => rfl
    | float | array | object => simp [isPlain] at plain
  · rintro rfl
    exact .refl _

@[simp] theorem same_string {left right : String}
    : Same (.string left) (.string right) ↔ left = right := by
  simp [same_iff_eq, isPlain]

@[simp] theorem same_integer {left right : Int}
    : Same (.integer left) (.integer right) ↔ left = right := by
  simp [same_iff_eq, isPlain]

@[simp] theorem same_bool {left right : Bool} : Same (.bool left) (.bool right) ↔ left = right := by
  simp [same_iff_eq, isPlain]

/-- Floating-point numbers are the same if they are one number. -/
theorem same_float {left right : Binary64} (isNumber : left.isNaN = false)
    : Same (.float left) (.float right) ↔ left.compare? right = some .eq := by
  constructor
  · intro same
    cases same with
    | refl => simp [Binary64.compare?, isNumber]
    | float equal => exact equal
  · exact .float

@[simp] theorem same_array {left right : List Json}
    : Same (.array left) (.array right) ↔ List.Forall₂ Same left right := by
  constructor
  · intro same
    cases same with
    | refl => exact List.forall₂_same.mpr fun json _ => .refl json
    | array items => exact items
  · exact .array

@[simp] theorem same_object_nil : Same (.object []) (.object []) :=
  .refl _

/-- Objects are the same if their fields are, one by one. -/
@[simp] theorem same_object_cons {first second : String} {left right : Json}
    {more others : List (String × Json)}
    : Same (.object ((first, left) :: more)) (.object ((second, right) :: others))
      ↔ first = second ∧ left.Same right ∧ Same (.object more) (.object others) := by
  constructor
  · intro same
    cases same with
    | refl => exact ⟨rfl, .refl _, .refl _⟩
    | object names values =>
        obtain ⟨name, names⟩ := List.cons.inj names
        obtain ⟨value, values⟩ := List.forall₂_cons.mp values
        exact ⟨name, value, .object names values⟩
  · rintro ⟨rfl, value, rest⟩
    cases rest with
    | refl =>
        exact .object rfl (.cons value (List.forall₂_same.mpr fun json _ => .refl json))
    | object names values => exact .object (congrArg (first :: ·) names) (.cons value values)

end Json

-----------------------------------------------------------------------------------------
-- Operands
-----------------------------------------------------------------------------------------

namespace Value

/-- The value is an infinite number. -/
def isInfinite : Value → Bool
  | .number (.float amount) => amount.isInfinite
  | _ => false

/-- A floating-point number is written as a number if it is a finite one. -/
theorem toJson_float {amount : Binary64} (isNumber : amount.isNaN = false)
    (finite : (Value.number (.float amount)).isInfinite = false)
    : (Value.number (.float amount)).toJson = .float amount := by
  have plain : amount.isInfinite = false := finite
  simp [toJson, isNumber, plain]

/-- An infinite number is written as null is. -/
theorem toJson_infinite {amount : Binary64} (infinite : amount.isInfinite = true)
    : (Value.number (.float amount)).toJson = Value.null.toJson := by
  simp [toJson, infinite]

/-- Of the values of a kind only infinite ones are written as null. -/
theorem toJson_ne_null {kind : Kind} {value : Value} (denoted : kind.Denoted value)
    (finite : value.isInfinite = false)
    : value.toJson ≠ .null := by
  cases denoted
  case float amount isNumber => simp [toJson_float isNumber finite]
  all_goals exact nofun

/-- Finite values of one kind with the same JSON are the same. -/
theorem same_of_denoted {kind : Kind} {left right : Value} (first : kind.Denoted left)
    (second : kind.Denoted right) (leftFinite : left.isInfinite = false)
    (rightFinite : right.isInfinite = false) (same : left.toJson.Same right.toJson)
    : left.same right = true := by
  cases first <;> cases second
  case float.float left leftNumber right rightNumber =>
    rw [toJson_float leftNumber leftFinite, toJson_float rightNumber rightFinite,
      Json.same_float leftNumber] at same
    exact beq_iff_eq.mpr same
  case date.date left right =>
    exact beq_iff_eq.mpr (Date.eq_of_toText (Json.same_string.mp same))
  case uuid.uuid left right =>
    exact beq_iff_eq.mpr (Uuid.eq_of_toText (Json.same_string.mp same))
  case instant.instant left right =>
    cases left
    cases right
    exact beq_iff_eq.mpr (congrArg Instant.mk (Json.same_integer.mp same))
  case text.text left right => exact beq_iff_eq.mpr (Json.same_string.mp same)
  case flag.flag left right => exact beq_iff_eq.mpr (Json.same_bool.mp same)
  case integer.integer left right =>
    exact beq_iff_eq.mpr (Int64.toInt_inj.mp (Json.same_integer.mp same))
  case unsigned.unsigned left right =>
    have equal : left.toNat = right.toNat := Int.ofNat.inj (Json.same_integer.mp same)
    exact beq_iff_eq.mpr (UInt64.toNat_inj.mp equal)
  case variant.variant _ left _ _ right _ =>
    have equal : left.toNat = right.toNat := Int.ofNat.inj (Json.same_integer.mp same)
    exact beq_iff_eq.mpr (UInt32.toNat_inj.mp equal)

/-- Finite operands for a value of one kind are the same if their JSON is: null is apart from all that
the kind has. -/
theorem same_of_takes {kind : Kind} {nullable : Bool} {left right : Value}
    (first : kind.Takes nullable left) (second : kind.Takes nullable right)
    (leftFinite : left.isInfinite = false) (rightFinite : right.isInfinite = false)
    (same : left.toJson.Same right.toJson)
    : left.same right = true := by
  rcases first with ⟨rfl, -⟩ | first
  · rcases second with ⟨rfl, -⟩ | second
    · rfl
    · have null : Json.null = right.toJson := (Json.same_iff_eq (.inl rfl)).mp same
      exact absurd null.symm (toJson_ne_null second rightFinite)
  · rcases second with ⟨rfl, -⟩ | second
    · have null : left.toJson = .null := (Json.same_iff_eq (.inr rfl)).mp same
      exact absurd null (toJson_ne_null first leftFinite)
    · exact same_of_denoted first second leftFinite rightFinite same

/-- Finite operands for values of one kind are the same one by one if their JSON is. -/
theorem all_same_of_takes {kind : Kind} {nullable : Bool} {left right : List Value}
    (first : ∀ operand ∈ left, kind.Takes nullable operand)
    (second : ∀ operand ∈ right, kind.Takes nullable operand)
    (leftFinite : ∀ operand ∈ left, operand.isInfinite = false)
    (rightFinite : ∀ operand ∈ right, operand.isInfinite = false)
    (same : List.Forall₂ (fun first second => first.toJson.Same second.toJson) left right)
    : List.Forall₂ (fun first second => first.same second = true) left right := by
  induction same with
  | nil => exact .nil
  | cons written _ ih =>
      simp only [List.forall_mem_cons] at first second leftFinite rightFinite
      exact .cons (same_of_takes first.1 second.1 leftFinite.1 rightFinite.1 written)
        (ih first.2 second.2 leftFinite.2 rightFinite.2)

/-- Operands that are the same are equal to the same fields. -/
theorem equals_congr {left right : Value} (same : left.same right = true) (field : Value)
    : field.equals left = field.equals right := by
  rcases same_cases same with rfl | ⟨first, second, rfl, rfl, -⟩
  · rfl
  · rw [equals_of_ne_null (by simp), equals_of_ne_null (by simp), compare?_congr same]

end Value

/-- Operands that are the same stand alike to all fields. -/
theorem CompareOp.holds_congr {left right : Value} (same : left.same right = true) (op : CompareOp)
    (field : Value)
    : op.holds field left = op.holds field right := by
  cases op <;> simp only [holds, Value.equals_congr same, Value.compare?_congr same]

/-- A field is among operands that are the same one by one if it is among either of them. -/
theorem Value.any_equals_congr {left right : List Value}
    (same : List.Forall₂ (fun first second => first.same second = true) left right) (field : Value)
    : left.any field.equals = right.any field.equals := by
  induction same with
  | nil => rfl
  | cons same _ ih => rw [List.any_cons, List.any_cons, Value.equals_congr same, ih]

theorem CompareOp.eq_of_name {left right : CompareOp} (same : left.name = right.name)
    : left = right := by
  cases left <;> cases right <;> first | rfl | exact absurd same (by decide)

theorem TextOp.eq_of_name {left right : TextOp} (same : left.name = right.name) : left = right := by
  cases left <;> cases right <;> first | rfl | exact absurd same (by decide)

-----------------------------------------------------------------------------------------
-- Filters
-----------------------------------------------------------------------------------------

namespace Filter

/-- The values that a filter compares fields with. -/
def operands : Filter → List Value
  | .compare _ _ operand => [operand]
  | .isIn _ operands => operands
  | .any _ filter | .not filter => filter.operands
  | .and left right | .or left right => left.operands ++ right.operands
  | .constant _ | .text .. | .like .. | .custom _ => []

/-- The filters differ at most in operands that are the same. -/
inductive Alike : Filter → Filter → Prop
  | refl (filter : Filter) : Alike filter filter
  | compare {path : String} {op : CompareOp} {left right : Value} (same : left.same right = true)
    : Alike (.compare path op left) (.compare path op right)
  | isIn {path : String} {left right : List Value}
    (same : List.Forall₂ (fun first second => first.same second = true) left right)
    : Alike (.isIn path left) (.isIn path right)
  | any {path : String} {left right : Filter} (inner : Alike left right)
    : Alike (.any path left) (.any path right)
  | not {left right : Filter} (inner : Alike left right) : Alike (.not left) (.not right)
  | and {left right first second : Filter} (before : Alike left first) (after : Alike right second)
    : Alike (.and left right) (.and first second)
  | or {left right first second : Filter} (before : Alike left first) (after : Alike right second)
    : Alike (.or left right) (.or first second)

/-- Filters that are alike say the same about every item, by induction on the filters. -/
theorem Alike.eval?_eq {schema : Schema} {left right : Filter} (alike : Alike left right)
    : ∀ (owner : schema.Ty) (item : schema.Item owner),
        left.eval? schema owner item = right.eval? schema owner item := by
  induction alike with
  | refl filter => exact fun _ _ => rfl
  | compare same =>
      intro owner item
      simp only [eval?, CompareOp.holds_congr same]
  | isIn same =>
      intro owner item
      have answers (field : Value) := Value.any_equals_congr same field
      simp only [eval?, answers]
  | any inner ih =>
      intro owner item
      have answers (element : schema.Ty) := funext (ih element)
      simp only [eval?, answers]
  | not inner ih =>
      intro owner item
      simp only [eval?, ih]
  | and before after ihBefore ihAfter =>
      intro owner item
      simp only [eval?, ihBefore, ihAfter]
  | or before after ihBefore ihAfter =>
      intro owner item
      simp only [eval?, ihBefore, ihAfter]

/-- Typed filters without infinite operands are alike if their JSON is the same, by induction on how
the first of them is typed. -/
theorem alike_of_toJson {schema : Schema} {owner : schema.Ty} {left right : Filter}
    (first : left.WellTyped schema owner) (second : right.WellTyped schema owner)
    (leftFinite : ∀ operand ∈ left.operands, operand.isInfinite = false)
    (rightFinite : ∀ operand ∈ right.operands, operand.isInfinite = false)
    (same : left.toJson.Same right.toJson)
    : left.Alike right := by
  induction first generalizing right with
  | never =>
      cases second <;> simp [toJson] at same
      exact .refl _
  | compare resolved reads ordered takes =>
      cases second <;> simp [toJson] at same
      next ordered accessor again readsAgain takesToo =>
      obtain ⟨rfl, named, written⟩ := same
      cases resolved.symm.trans again
      cases reads.symm.trans readsAgain
      obtain rfl := CompareOp.eq_of_name named
      exact .compare (Value.same_of_takes takes takesToo (leftFinite _ (by simp [operands]))
        (rightFinite _ (by simp [operands])) written)
  | text resolved reads =>
      cases second <;> simp [toJson] at same
      obtain ⟨rfl, named, rfl⟩ := same
      obtain rfl := TextOp.eq_of_name named
      exact .refl _
  | like resolved reads =>
      cases second <;> simp [toJson] at same
      obtain ⟨rfl, rfl⟩ := same
      exact .refl _
  | isIn resolved reads takes =>
      cases second <;> simp [toJson] at same
      next accessor again readsAgain takesToo =>
      obtain ⟨rfl, written⟩ := same
      cases resolved.symm.trans again
      cases reads.symm.trans readsAgain
      exact .isIn (Value.all_same_of_takes takes takesToo leftFinite rightFinite written)
  | any reached within ih =>
      cases second <;> simp [toJson] at same
      next within gather again =>
      obtain ⟨rfl, written⟩ := same
      cases reached.symm.trans again
      exact .any (ih within leftFinite rightFinite written)
  | not inner ih =>
      cases second <;> simp [toJson] at same
      next inner =>
      exact .not (ih inner leftFinite rightFinite same)
  | and before after ihBefore ihAfter =>
      cases second <;> simp [toJson] at same
      next first second =>
      simp only [operands, List.forall_mem_append] at leftFinite rightFinite
      exact .and (ihBefore first leftFinite.1 rightFinite.1 same.1)
        (ihAfter second leftFinite.2 rightFinite.2 same.2)
  | or before after ihBefore ihAfter =>
      cases second <;> simp [toJson] at same
      next first second =>
      simp only [operands, List.forall_mem_append] at leftFinite rightFinite
      exact .or (ihBefore first leftFinite.1 rightFinite.1 same.1)
        (ihAfter second leftFinite.2 rightFinite.2 same.2)

end Filter

namespace Where

variable {schema : Schema} {owner : schema.Ty}

/-- The JSON of a filter determines the query: accepted where trees whose filters have the same JSON,
its numbers being compared as numbers, keep the same items if neither compares with an infinite number. -/
theorem compile_test_of_toJson {first second : List Node}
    {left right : Predicate (schema.Item owner)}
    (leftAccepted : (compile schema owner {} first).outcome = .ok left)
    (rightAccepted : (compile schema owner {} second).outcome = .ok right)
    (leftFinite : ∀ operand ∈ left.filter.operands, operand.isInfinite = false)
    (rightFinite : ∀ operand ∈ right.filter.operands, operand.isInfinite = false)
    (same : left.filter.toJson.Same right.filter.toJson) (item : schema.Item owner)
    : left.test item = right.test item := by
  have typed := Filter.wellTyped_composable schema
  have alike := Filter.alike_of_toJson (typed.of_compile leftAccepted)
    (typed.of_compile rightAccepted) leftFinite rightFinite same
  have told := told_composable schema
  apply Option.some.inj
  calc some (left.test item)
    _ = left.filter.eval? schema owner item := (told.of_compile leftAccepted item).symm
    _ = right.filter.eval? schema owner item := alike.eval?_eq owner item
    _ = some (right.test item) := told.of_compile rightAccepted item

/-- Readings whose error is the number of a token, or of which a further clause holds. -/
def exactOr (error : String) (clause : Node) : List Node :=
  [(Node.leaf "error" .equal [error]).joinedBy .or, clause]

/-- Readings that are off by nothing or show one are a single query, whichever zero is meant and whether
the one is the bounds of a range or not. -/
theorem compile_test_of_toJson_zeros
    : ∃ left right,
        (compile Gauge.schema () {}
            (exactOr "0" (.leaf "level" .between ["1", "1.0"]))).outcome = .ok left
        ∧ (compile Gauge.schema () {}
            (exactOr "-0" (.leaf "level" .equal ["1e0"]))).outcome = .ok right
        ∧ left.filter ≠ right.filter
        ∧ left.filter.toJson.Same right.filter.toJson
        ∧ ∀ item, left.test item = right.test item := by
  obtain ⟨left, leftAccepted, leftFilter⟩ := map_eq_ok.mp (by decide +kernel
    : (compile Gauge.schema () {}
        (exactOr "0" (.leaf "level" .between ["1", "1.0"]))).outcome.map Predicate.filter
      = .ok (.or (.compare "error" .eq (.number (.float ⟨0⟩)))
          (.compare "level" .eq (.number (.float ⟨0x3FF0000000000000⟩)))))
  obtain ⟨right, rightAccepted, rightFilter⟩ := map_eq_ok.mp (by decide +kernel
    : (compile Gauge.schema () {}
        (exactOr "-0" (.leaf "level" .equal ["1e0"]))).outcome.map Predicate.filter
      = .ok (.or (.compare "error" .eq (.number (.float ⟨0x8000000000000000⟩)))
          (.compare "level" .eq (.number (.float ⟨0x3FF0000000000000⟩)))))
  have zero : (Value.number (.float ⟨0⟩)).toJson = .float ⟨0⟩ :=
    Value.toJson_float (by decide) (by decide)
  have below : (Value.number (.float ⟨0x8000000000000000⟩)).toJson
      = .float ⟨0x8000000000000000⟩ :=
    Value.toJson_float (by decide) (by decide)
  have zeros : Binary64.compare? ⟨0⟩ ⟨0x8000000000000000⟩ = some .eq := by decide
  have same : left.filter.toJson.Same right.filter.toJson := by
    rw [leftFilter, rightFilter]
    simp [Filter.toJson, zero, below, Json.Same.float zeros, Json.Same.refl]
  refine ⟨left, right, leftAccepted, rightAccepted, ?_, same, ?_⟩
  · rw [leftFilter, rightFilter]
    decide
  · exact compile_test_of_toJson leftAccepted rightAccepted
      (by rw [leftFilter]; decide) (by rw [rightFilter]; decide) same

/-- Readings without a level of which the clause that the level is that of a token does not hold. -/
def emptyBut (token : Token) : List Node :=
  [(Node.leaf "level" .equal []).withTokens [none],
    ((Node.leaf "level" .equal []).withTokens [token]).negated]

/-- The readings that have no level, but not an infinite one, are those without a level. Those that have
no level, but not no level, are none. The filters of both queries have one JSON. -/
theorem compile_test_infiniteLevel
    : ∃ left right,
        (compile Gauge.schema () {} (emptyBut (some "inf"))).outcome = .ok left
        ∧ (compile Gauge.schema () {} (emptyBut none)).outcome = .ok right
        ∧ left.filter.toJson = right.filter.toJson
        ∧ left.test (⟨none, ⟨0⟩⟩ : Gauge.Reading) = true
        ∧ right.test (⟨none, ⟨0⟩⟩ : Gauge.Reading) = false := by
  obtain ⟨left, leftAccepted, leftParts⟩ := map_eq_ok.mp (by decide +kernel
    : (compile Gauge.schema () {} (emptyBut (some "inf"))).outcome.map
        (fun predicate => (predicate.filter, predicate.test (⟨none, ⟨0⟩⟩ : Gauge.Reading)))
      = .ok (.and (.compare "level" .eq .null)
          (.not (.compare "level" .eq (.number (.float ⟨0x7FF0000000000000⟩)))), true))
  obtain ⟨right, rightAccepted, rightParts⟩ := map_eq_ok.mp (by decide +kernel
    : (compile Gauge.schema () {} (emptyBut none)).outcome.map
        (fun predicate => (predicate.filter, predicate.test (⟨none, ⟨0⟩⟩ : Gauge.Reading)))
      = .ok (.and (.compare "level" .eq .null) (.not (.compare "level" .eq .null)), false))
  obtain ⟨leftFilter, kept⟩ := Prod.mk.inj leftParts
  obtain ⟨rightFilter, dropped⟩ := Prod.mk.inj rightParts
  have infinite : (Value.number (.float ⟨0x7FF0000000000000⟩)).toJson = Value.null.toJson :=
    Value.toJson_infinite (by decide)
  refine ⟨left, right, leftAccepted, rightAccepted, ?_, kept, dropped⟩
  rw [leftFilter, rightFilter]
  simp only [Filter.toJson, infinite]

end Where

end TypedQuery
