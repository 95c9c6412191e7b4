import TypedQuery.Proofs.Clause.Membership
import TypedQuery.Proofs.Number.Order
import TypedQuery.Proofs.Text.Numeral

/-! Tokens of integers. A token denotes an integer exactly if it is a numeral of one that the words of its
kind can hold, and then this integer and no other. So the decimal form of an integer finds the items that
have it.
-/

namespace TypedQuery

open Text

-----------------------------------------------------------------------------------------
-- Kinds of integers
-----------------------------------------------------------------------------------------

/-- The kinds whose values are integers. -/
inductive Kind.Integral : Kind → Prop
  | integer : Integral .integer
  | unsigned : Integral .unsigned

/-- There are negative numbers of the kind. -/
def Kind.hasNegatives : Kind → Bool
  | .integer => true
  | _ => false

/-- The words of the kind can hold the integer. -/
def Kind.InRange : Kind → Int → Prop
  | .integer, value => -2 ^ 63 ≤ value ∧ value < 2 ^ 63
  | .unsigned, value => 0 ≤ value ∧ value < 2 ^ 64
  | _, _ => False

/-- The number is of the kind, and is this integer. -/
structure Number.Holds (number : Number) (kind : Kind) (value : Int) : Prop where
  ofKind : kind.Describes (.number number)
  integer : number.integer? = some value

namespace Kind

variable {kind : Kind} {text : List Char} {value : Int} {nullable : Bool} {raw : String}

/-- Each kind has one number for an integer. -/
theorem eq_of_holds (integral : kind.Integral) {number other : Number}
    (holds : number.Holds kind value) (same : other.Holds kind value)
    : number = other := by
  obtain ⟨ofKind, integer⟩ := holds
  obtain ⟨otherOfKind, otherInteger⟩ := same
  have integers := integer.trans otherInteger.symm
  cases integral <;> cases ofKind <;> cases otherOfKind <;>
    simp only [Number.integer?, Option.some.injEq] at integers
  · rw [Int64.toInt_inj.mp integers]
  · rw [UInt64.toNat_inj.mp (Int.natCast_inj.mp integers)]

/-- The numbers of a kind are all integers in its range. -/
theorem exists_holds_iff (integral : kind.Integral)
    : (∃ number : Number, number.Holds kind value) ↔ kind.InRange value := by
  cases integral with
  | integer =>
      rw [InRange, ← exists_toInt_iff]
      constructor
      · rintro ⟨number, ofKind, integer⟩
        cases ofKind with
        | integer word => exact ⟨word, Option.some.inj integer⟩
      · rintro ⟨word, same⟩
        exact ⟨.signed word, .integer word, congrArg some same⟩
  | unsigned =>
      rw [InRange, ← exists_toNat_iff]
      constructor
      · rintro ⟨number, ofKind, integer⟩
        cases ofKind with
        | unsigned word => exact ⟨word, Option.some.inj integer⟩
      · rintro ⟨word, same⟩
        exact ⟨.unsigned word, .unsigned word, congrArg some same⟩

-----------------------------------------------------------------------------------------
-- Tokens
-----------------------------------------------------------------------------------------

theorem integerOfText?_eq_some_iff {word : Int64}
    : integerOfText? text = some word ↔ Spells true text word.toInt := by
  rw [integerOfText?, Option.bind_eq_some_iff]
  simp only [signed?_eq_some_iff, Option.ite_none_right_eq_some, Option.some.injEq]
  constructor
  · rintro ⟨value, spelled, range, rfl⟩
    rwa [Int64.toInt_ofInt_of_le range.1 (Int.lt_add_one_of_le range.2)]
  · intro spelled
    exact ⟨word.toInt, spelled, ⟨word.le_toInt, Int.le_of_lt_add_one word.toInt_lt⟩, word.ofInt_toInt⟩

theorem unsignedOfText?_eq_some_iff {word : UInt64}
    : unsignedOfText? text = some word ↔ Spells false text word.toNat := by
  rw [unsignedOfText?, Option.bind_eq_some_iff]
  simp only [Option.ite_none_right_eq_some, Option.some.injEq]
  rw [← map_unsigned?_eq_some_iff, Option.map_eq_some_iff]
  constructor
  · rintro ⟨count, read, range, rfl⟩
    exact ⟨count, read, by rw [UInt64.toNat_ofNat_of_lt' range]; rfl⟩
  · rintro ⟨count, read, same⟩
    obtain rfl := Int.natCast_inj.mp same
    exact ⟨word.toNat, read, word.toNat_lt, UInt64.ofNat_toNat⟩

/-- A token denotes a number of a kind of integers exactly if it is a numeral of that integer. -/
theorem valueOfText?_integral (integral : kind.Integral) {operand : Value}
    : kind.valueOfText? raw = some operand
      ↔ ∃ number count, number.Holds kind count
          ∧ Spells kind.hasNegatives (trim raw.toList) count ∧ operand = .number number := by
  cases integral with
  | integer =>
      simp only [valueOfText?, Option.map_eq_some_iff, integerOfText?_eq_some_iff]
      constructor
      · rintro ⟨word, spelled, rfl⟩
        exact ⟨.signed word, word.toInt, ⟨.integer word, rfl⟩, spelled, rfl⟩
      · rintro ⟨number, count, ⟨ofKind, integer⟩, spelled, rfl⟩
        cases ofKind with
        | integer word =>
            obtain rfl := Option.some.inj integer
            exact ⟨word, spelled, rfl⟩
  | unsigned =>
      simp only [valueOfText?, Option.map_eq_some_iff, unsignedOfText?_eq_some_iff]
      constructor
      · rintro ⟨word, spelled, rfl⟩
        exact ⟨.unsigned word, word.toNat, ⟨.unsigned word, rfl⟩, spelled, rfl⟩
      · rintro ⟨number, count, ⟨ofKind, integer⟩, spelled, rfl⟩
        cases ofKind with
        | unsigned word =>
            obtain rfl := Option.some.inj integer
            exact ⟨word, spelled, rfl⟩

/-- A token is converted exactly if there is a numeral in it, with white space around it or none, of an
integer that words of the kind hold. -/
theorem convert_integral (integral : kind.Integral) {operand : Value}
    : kind.convert nullable (some raw) = .ok operand
      ↔ ∃ text count number, Framed raw.toList text ∧ Spells kind.hasNegatives text count
          ∧ number.Holds kind count ∧ operand = .number number := by
  rw [convert_some_eq_ok, valueOfText?_integral integral]
  simp only [← exists_framed_spells_iff]
  constructor
  · rintro ⟨number, count, holds, ⟨text, framed, spelled⟩, same⟩
    exact ⟨text, count, number, framed, spelled, holds, same⟩
  · rintro ⟨text, count, number, framed, spelled, holds, same⟩
    exact ⟨number, count, holds, ⟨text, framed, spelled⟩, same⟩

/-- The decimal form of an integer, with white space around it or none, is a token of it. -/
theorem convert_toString (integral : kind.Integral) {number : Number}
    (holds : number.Holds kind value) (framed : Framed raw.toList (toString value).toList)
    : kind.convert nullable (some raw) = .ok (.number number) := by
  refine (convert_integral integral).mpr ⟨_, value, number, framed, spells_toString ?_, holds, rfl⟩
  intro negative
  obtain ⟨ofKind, integer⟩ := holds
  cases integral with
  | integer => rfl
  | unsigned =>
      cases ofKind with
      | unsigned word =>
          have natural := Option.some.inj integer
          omega

-----------------------------------------------------------------------------------------
-- Clauses
-----------------------------------------------------------------------------------------

/-- What is read from a field of the kind equals a number of the kind only if it is that number. -/
theorem equals_number_iff (integral : kind.Integral) {field : Value} {number : Number}
    (ofKind : field = .null ∨ kind.Describes field) (holds : number.Holds kind value)
    : field.equals (.number number) = true ↔ field = .number number := by
  have reads (other : Number) (described : kind.Describes (.number other))
      : (Value.number other).equals (.number number) = true
        ↔ Value.number other = .number number := by
    obtain ⟨integer, same⟩ : ∃ integer, other.integer? = some integer := by
      cases integral <;> cases described <;> exact ⟨_, rfl⟩
    have compared : (Value.number other).compare? (.number number) = some (compare integer value) :=
      Number.compare?_of_integers same holds.integer
    have filled : Value.number number ≠ .null := nofun
    rw [Value.equals_of_ne_null filled, compared, beq_iff_eq, Option.some.injEq, Int.compare_eq_eq]
    constructor
    · rintro rfl
      rw [eq_of_holds integral ⟨described, same⟩ holds]
    · rintro ⟨⟩
      exact Option.some.inj (same.symm.trans holds.integer)
  rcases ofKind with rfl | described
  · exact ⟨nofun, nofun⟩
  · cases integral <;> cases described <;> exact reads _ (by constructor)

end Kind

/-- Tokens of integers are exact. A token denotes an integer of a kind exactly if it is, but for white space
around it, a numeral of that integer with a sign that the kind has, and the words of the kind hold it; any
other token is refused as it was sent. So the decimal form of each integer of the kind denotes it again, and
a clause that asks for it on a field of the kind keeps the items whose field it is. -/
theorem Clause.compile_equal_integer (kind : Kind) (integral : kind.Integral) (nullable : Bool)
    (raw : String)
    : (∀ operand, kind.convert nullable (some raw) = .ok operand
          ↔ ∃ text value number, Framed raw.toList text ∧ Spells kind.hasNegatives text value
              ∧ number.Holds kind value ∧ operand = .number number)
      ∧ ((∃ operand, kind.convert nullable (some raw) = .ok operand)
          ↔ ∃ text value, Framed raw.toList text ∧ Spells kind.hasNegatives text value
              ∧ kind.InRange value)
      ∧ (∀ fault, kind.convert nullable (some raw) = .error fault →
          fault = .unconvertible (some raw) kind)
      ∧ ∀ number value, number.Holds kind value →
          Framed raw.toList (toString value).toList →
          kind.convert nullable (some raw) = .ok (.number number)
          ∧ ∀ (schema : Schema) (owner : schema.Ty) (path : String)
              (accessor : Accessor schema owner),
              Accessor.resolve schema owner path = .ok accessor →
              accessor.kind? = some kind →
              (∀ item field, accessor.read? item = some field →
                field = .null ∨ kind.Describes field) →
              (asserting path .equal [some raw]).Compiles schema owner
              ∧ ∀ item,
                  (asserting path .equal [some raw]).holds schema owner item = true
                  ↔ accessor.read? item = some (.number number) := by
  refine ⟨fun operand => Kind.convert_integral integral, ?_, fun fault fails => ?_, ?_⟩
  · simp only [Kind.convert_integral integral, ← Kind.exists_holds_iff integral]
    constructor
    · rintro ⟨_, text, value, number, framed, spelled, holds, rfl⟩
      exact ⟨text, value, framed, spelled, number, holds⟩
    · rintro ⟨text, value, framed, spelled, number, holds⟩
      exact ⟨_, text, value, number, framed, spelled, holds, rfl⟩
  · exact (Kind.convert_eq_error.mp fails).1
  · intro number value holds framed
    refine ⟨Kind.convert_toString integral holds framed, ?_⟩
    intro schema owner path accessor resolved reads fromField
    obtain ⟨target, leads, rfl⟩ := Accessor.resolve_eq_ok.mp resolved
    cases target with
    | elements => cases reads
    | value valueKind valueNullable read =>
        obtain rfl : valueKind = kind := Option.some.inj reads
        have converted : valueKind.convert valueNullable (some raw) = .ok (.number number) :=
          Kind.convert_toString integral holds framed
        constructor
        · rw [compiles_of_equality leads .equal [some raw] (by decide) rfl, List.forall_mem_singleton]
          exact ⟨_, converted⟩
        · intro item
          rw [holds_equal_iff leads]
          simp only [converted, Except.ok.injEq, exists_eq_left']
          rw [Kind.equals_number_iff integral (fromField item (read item) rfl) holds]
          exact Option.some_inj.symm

/-- The least integer of all words has no counterpart above zero. A clause that asks for it, with white space
around it, keeps a line that has it as its quantity and not one whose pieces are not counted. -/
theorem Clause.compile_equal_integer_leastQuantity
    : Kind.integer.Integral
      ∧ (Number.signed Int64.minValue).Holds .integer (-9223372036854775808)
      ∧ Framed " -9223372036854775808\n".toList (toString (-9223372036854775808 : Int)).toList
      ∧ ∃ accessor : Accessor Shop.schema .line,
          Accessor.resolve Shop.schema .line "quantity" = .ok accessor
          ∧ accessor.kind? = some .integer
          ∧ (∀ item field, accessor.read? item = some field →
              field = .null ∨ Kind.integer.Describes field)
          ∧ (asserting "quantity" .equal [some " -9223372036854775808\n"]).holds Shop.schema .line
              (⟨"nail", some Int64.minValue⟩ : Shop.Line) = true
          ∧ (asserting "quantity" .equal [some " -9223372036854775808\n"]).holds Shop.schema .line
              (⟨"hook", none⟩ : Shop.Line) = false := by
  have holds : (Number.signed Int64.minValue).Holds .integer (-9223372036854775808) :=
    ⟨.integer _, by decide⟩
  have framed : Framed " -9223372036854775808\n".toList (toString (-9223372036854775808 : Int)).toList :=
    ⟨[' '], ['\n'], by decide +kernel, List.forall_mem_singleton.mpr rfl,
      List.forall_mem_singleton.mpr rfl⟩
  have resolved := Accessor.resolve_eq_ok.mpr ⟨_, Shop.resolve_quantity, rfl⟩
  have fromField : ∀ (line : Shop.Line) field,
      some ((line.quantity.map fun count => Value.number (.signed count)).getD .null) = some field →
      field = .null ∨ Kind.integer.Describes field := by
    rintro ⟨article, quantity⟩ field ⟨⟩
    cases quantity with
    | none => exact .inl rfl
    | some count => exact .inr (.integer count)
  obtain ⟨-, -, -, forms⟩ :=
    Clause.compile_equal_integer .integer .integer true " -9223372036854775808\n"
  obtain ⟨-, clauses⟩ := forms _ _ holds framed
  obtain ⟨-, keeps⟩ := clauses Shop.schema .line "quantity" _ resolved rfl fromField
  have missed : ¬ (asserting "quantity" .equal [some " -9223372036854775808\n"]).holds Shop.schema .line
      (⟨"hook", none⟩ : Shop.Line) = true := by
    intro kept
    cases (keeps _).mp kept
  exact ⟨.integer, holds, framed, _, resolved, rfl, fromField, (keeps _).mpr rfl,
    Bool.not_eq_true _ ▸ missed⟩

end TypedQuery
