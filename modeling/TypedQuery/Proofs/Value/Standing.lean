import TypedQuery.Proofs.Accessor.Typing

/-! How the values of one kind stand to each other when items are sorted. Null comes first, then NaN,
then all other values in the order in which clauses compare them. On the values of each kind that is a
total preorder.
-/

namespace TypedQuery

-----------------------------------------------------------------------------------------
-- Orders of the parts of values
-----------------------------------------------------------------------------------------

instance : Std.TransCmp Date.compare :=
  inferInstanceAs (Std.TransCmp
    (compareLex (compareOn Date.year) (compareLex (compareOn Date.month) (compareOn Date.day))))

instance : Std.TransCmp Instant.compare :=
  inferInstanceAs (Std.TransCmp (compareOn Instant.milliseconds))

instance : Std.TransCmp Uuid.compare :=
  inferInstanceAs (Std.TransCmp (compareOn fun uuid : Uuid => uuid.bits.toNat))

/-- The place of a floating-point number in the order of comparisons; NaN has none. -/
def Binary64.place? (number : Binary64) : Option Int :=
  if number.isNaN then none else some number.key

-----------------------------------------------------------------------------------------
-- Null, NaN and the rest
-----------------------------------------------------------------------------------------

namespace Value

/-- How far back a value is among the values of its kind: null is first, NaN second, and all else is
behind them. -/
def rank : Value → Nat
  | .null => 0
  | .number amount => if amount.isNaN then 1 else 2
  | _ => 2

/-- How a value stands to another of its kind: by their ranks, and among values of one rank in the order
of comparisons. -/
def standing (left right : Value) : Ordering :=
  (compare left.rank right.rank).then ((left.compare? right).getD .eq)

end Value

namespace Number

/-- NaN compares with no number. -/
theorem compare?_of_isNaN {left right : Number} (isNaN : left.isNaN = true ∨ right.isNaN = true)
    : left.compare? right = none := by
  cases left <;> cases right <;>
    simp_all [Number.isNaN, Number.compare?, Number.toBinary64, Binary64.compare?]

/-- Floating-point numbers are sorted by their places. -/
theorem sortCompare_float (left right : Binary64)
    : sortCompare (.float left) (.float right) = compare left.place? right.place? := by
  cases first : left.isNaN <;> cases second : right.isNaN <;>
    simp [sortCompare, Number.isNaN, Binary64.place?, Number.compare?, Number.toBinary64,
      Binary64.compare?, first, second] <;>
    rfl

end Number

namespace Value

/-- Numbers stand to each other the way that they are sorted. -/
theorem standing_number (left right : Number)
    : standing (.number left) (.number right) = left.sortCompare right := by
  unfold standing rank compare? Number.sortCompare
  cases first : left.isNaN <;> cases second : right.isNaN <;>
    simp [first, second, Number.compare?_of_isNaN] <;>
    rfl

/-- Only null is in the first rank. -/
theorem rank_pos {value : Value} (filled : value ≠ .null) : 0 < value.rank := by
  cases value with
  | null => exact absurd rfl filled
  | number amount => cases isNaN : amount.isNaN <;> simp [rank, isNaN]
  | text | instant | date | variant | flag | uuid => exact Nat.two_pos

theorem standing_null_left {value : Value} (filled : value ≠ .null)
    : null.standing value = .lt := by
  have before : compare null.rank value.rank = .lt := Nat.compare_eq_lt.mpr (rank_pos filled)
  rw [standing, before, Ordering.lt_then]

theorem standing_null_right {value : Value} (filled : value ≠ .null)
    : value.standing .null = .gt := by
  have behind : compare value.rank null.rank = .gt := Nat.compare_eq_gt.mpr (rank_pos filled)
  rw [standing, behind, Ordering.gt_then]

/-- Values of one kind, null among them, are sorted by how they stand to each other. -/
theorem sortCompare?_eq_standing {kind : Kind} {left right : Value}
    (first : left = .null ∨ kind.Describes left) (second : right = .null ∨ kind.Describes right)
    : left.sortCompare? right = some (left.standing right) := by
  rcases first with rfl | first
  · rcases second with rfl | second
    · rfl
    · rw [standing_null_left second.ne_null]
      cases second <;> rfl
  · rcases second with rfl | second
    · rw [standing_null_right first.ne_null]
      cases first <;> rfl
    · cases first with
      | integer | unsigned | float =>
          cases second
          exact congrArg some (standing_number _ _).symm
      | text | flag | instant | date | uuid | variant =>
          cases second
          rfl

end Value

-----------------------------------------------------------------------------------------
-- A total preorder for each kind
-----------------------------------------------------------------------------------------

/-- The values of each kind are those of some ordered type, and stand to each other as in that type. -/
theorem Kind.exists_ordered (kind : Kind)
    : ∃ (Content : Type) (_ : Ord Content) (_ : Std.TransOrd Content) (value : Content → Value),
        (∀ described, kind.Describes described ↔ ∃ content, value content = described)
        ∧ ∀ left right, (value left).standing (value right) = compare left right := by
  have holding {Content : Type} {value : Content → Value}
      (holds : ∀ content, kind.Describes (value content))
      (only : ∀ described, kind.Describes described → ∃ content, value content = described)
      (described : Value)
      : kind.Describes described ↔ ∃ content, value content = described :=
    ⟨only described, fun ⟨content, same⟩ => same ▸ holds content⟩
  cases kind with
  | text =>
      exact ⟨String, inferInstance, inferInstance, .text,
        holding .text fun _ (.text content) => ⟨content, rfl⟩, fun _ _ => rfl⟩
  | integer =>
      exact ⟨Int64, inferInstance, inferInstance, fun content => .number (.signed content),
        holding .integer fun _ (.integer content) => ⟨content, rfl⟩, fun _ _ => rfl⟩
  | unsigned =>
      exact ⟨UInt64, inferInstance, inferInstance, fun content => .number (.unsigned content),
        holding .unsigned fun _ (.unsigned content) => ⟨content, rfl⟩, fun _ _ => rfl⟩
  | float =>
      -- NaN has no place among the numbers, and so stands before all of them.
      refine ⟨Binary64, ⟨compareOn Binary64.place?⟩,
        inferInstanceAs (Std.TransCmp (compareOn Binary64.place?)),
        fun content => .number (.float content),
        holding .float fun _ (.float content) => ⟨content, rfl⟩, fun left right => ?_⟩
      rw [Value.standing_number, Number.sortCompare_float]
      rfl
  | flag =>
      exact ⟨Bool, inferInstance, inferInstance, .flag,
        holding .flag fun _ (.flag content) => ⟨content, rfl⟩, fun _ _ => rfl⟩
  | instant =>
      exact ⟨Instant, ⟨Instant.compare⟩, inferInstanceAs (Std.TransCmp Instant.compare), .instant,
        holding .instant fun _ (.instant content) => ⟨content, rfl⟩, fun _ _ => rfl⟩
  | date =>
      exact ⟨Date, ⟨Date.compare⟩, inferInstanceAs (Std.TransCmp Date.compare), .date,
        holding .date fun _ (.date content) => ⟨content, rfl⟩, fun _ _ => rfl⟩
  | uuid =>
      exact ⟨Uuid, ⟨Uuid.compare⟩, inferInstanceAs (Std.TransCmp Uuid.compare), .uuid,
        holding .uuid fun _ (.uuid content) => ⟨content, rfl⟩, fun _ _ => rfl⟩
  | variant enumeration =>
      exact ⟨UInt32, inferInstance, inferInstance, .variant,
        holding (.variant enumeration) fun _ (.variant _ content) => ⟨content, rfl⟩, fun _ _ => rfl⟩

/-- What is read as values of one kind, or as null, is put in a total preorder by how the values stand
to each other: null is below all values of the kind. -/
theorem Value.transCmp_standing {α : Type} {kind : Kind} (read : α → Value)
    (ofKind : ∀ item, read item = .null ∨ kind.Describes (read item))
    : Std.TransCmp fun left right => (read left).standing (read right) := by
  obtain ⟨Content, _, _, value, describes, stands⟩ := kind.exists_ordered
  have filled (content : Content) : value content ≠ .null :=
    ((describes _).mpr ⟨content, rfl⟩).ne_null
  have holds (item : α) : ∃ content? : Option Content, read item = (content?.map value).getD .null := by
    rcases ofKind item with null | described
    · exact ⟨none, null⟩
    · obtain ⟨content, same⟩ := (describes _).mp described
      exact ⟨some content, same.symm⟩
  choose content? spelled using holds
  have same : (fun left right => (read left).standing (read right)) = compareOn content? := by
    funext left right
    rw [compareOn, spelled left, spelled right]
    cases content? left with
    | none =>
        cases content? right with
        | none => rfl
        | some second => exact standing_null_left (filled second)
    | some first =>
        cases content? right with
        | none => exact standing_null_right (filled first)
        | some second => exact stands first second
  rw [same]
  infer_instance

end TypedQuery
