import TypedQuery.Proofs.Source.Paging

/-! Page after page of a result. A client that asks for one page after the other, until it gets an empty one,
has the whole result in its hands: no item is missing, none comes twice, and none is out of place. The list
in memory and the recorded query agree on every page.
-/

namespace TypedQuery

-----------------------------------------------------------------------------------------
-- Asking for one page after the other
-----------------------------------------------------------------------------------------

section Asking

variable {α : Type}

/-- The pages of `size` items that a client gets from a page on, counted from zero, up to the first empty
one, which is left out. `answer` is what it gets for an offset, and an offset is a word. -/
inductive PagesFrom (answer : UInt64 → Except QueryError (List α)) (size : UInt64)
    : Nat → List (List α) → Prop
  | last {number : Nat} {offset : UInt64} (begins : offset.toNat = number * size.toNat)
      (empty : answer offset = .ok [])
      : PagesFrom answer size number []
  | next {number : Nat} {offset : UInt64} {page : List α} {others : List (List α)}
      (begins : offset.toNat = number * size.toNat) (answered : answer offset = .ok page)
      (filled : page ≠ []) (rest : PagesFrom answer size (number + 1) others)
      : PagesFrom answer size number (page :: others)

/-- Asking for pages of a result. It fails exactly if the result itself does. The pages come to an end
exactly if some offset that begins a page is not within the result, which is so for every result that fits
into memory. And the pages, put together, are the result. -/
structure Partitioned (size : UInt64) (whole : Except QueryError (List α))
    (answer : UInt64 → Except QueryError (List α)) : Prop where
  refused : ∀ error offset, answer offset = .error error ↔ whole = .error error
  ends_iff
    : ∀ items, whole = .ok items →
        ((∃ pages, PagesFrom answer size 0 pages)
          ↔ ∃ offset : UInt64, size.toNat ∣ offset.toNat ∧ items.length ≤ offset.toNat)
  ends
    : ∀ items, whole = .ok items → 2 * items.length ≤ UInt64.size →
        ∃ pages, PagesFrom answer size 0 pages
  joined
    : ∀ items pages, whole = .ok items → PagesFrom answer size 0 pages → pages.flatten = items

/-- The page of `size` items from an offset on. -/
def slice (offset size : UInt64) (items : List α) : List α :=
  (items.drop offset.toNat).take size.toNat

variable {size : UInt64} {items : List α} {answer : UInt64 → Except QueryError (List α)}

/-- A page is empty exactly if it begins behind all items. -/
theorem slice_eq_nil_iff (positive : 0 < size) {offset : UInt64}
    : slice offset size items = [] ↔ items.length ≤ offset.toNat := by
  have sizeNat : size.toNat ≠ 0 := Nat.pos_iff_ne_zero.mp (UInt64.lt_iff_toNat_lt.mp positive)
  simp [slice, List.take_eq_nil_iff, List.drop_eq_nil_iff, sizeNat]

/-- From each page on, the pages are what the items are from there on, by induction on the pages. -/
theorem PagesFrom.flatten_eq (positive : 0 < size)
    (sliced : ∀ offset, answer offset = .ok (slice offset size items)) {number : Nat}
    {pages : List (List α)} (asked : PagesFrom answer size number pages)
    : pages.flatten = items.drop (number * size.toNat) := by
  induction asked with
  | @last number offset begins empty =>
      have beyond := (slice_eq_nil_iff positive).mp (Except.ok.inj ((sliced offset).symm.trans empty))
      rw [← begins, List.flatten_nil, List.drop_eq_nil_iff.mpr beyond]
  | @next number offset page others begins answered _ _ ih =>
      have same : page = slice offset size items := Except.ok.inj (answered.symm.trans (sliced offset))
      rw [List.flatten_cons, ih, same, slice, begins, Nat.succ_mul, ← List.drop_drop,
        List.take_append_drop]

/-- The pages end at an offset behind all items, by induction on the pages. -/
theorem PagesFrom.exists_offset (positive : 0 < size)
    (sliced : ∀ offset, answer offset = .ok (slice offset size items)) {number : Nat}
    {pages : List (List α)} (asked : PagesFrom answer size number pages)
    : ∃ offset : UInt64, size.toNat ∣ offset.toNat ∧ items.length ≤ offset.toNat := by
  induction asked with
  | @last number offset begins empty =>
      have beyond := (slice_eq_nil_iff positive).mp (Except.ok.inj ((sliced offset).symm.trans empty))
      exact ⟨offset, ⟨number, begins.trans (Nat.mul_comm _ _)⟩, beyond⟩
  | next _ _ _ _ ih => exact ih

theorem exists_toNat_eq {place : Nat} (word : place < UInt64.size)
    : ∃ offset : UInt64, offset.toNat = place :=
  ⟨UInt64.ofNat place, UInt64.toNat_ofNat_of_lt word⟩

/-- The pages come to an end if one of them begins behind all items, by induction on the number of pages up
to that one. -/
theorem exists_pagesFrom (positive : 0 < size)
    (sliced : ∀ offset, answer offset = .ok (slice offset size items)) {left number : Nat}
    (word : (number + left) * size.toNat < UInt64.size)
    (beyond : items.length ≤ (number + left) * size.toNat)
    : ∃ pages, PagesFrom answer size number pages := by
  induction left generalizing number with
  | zero =>
      obtain ⟨offset, begins⟩ := exists_toNat_eq word
      have empty : slice offset size items = [] := (slice_eq_nil_iff positive).mpr (begins ▸ beyond)
      exact ⟨[], .last begins ((sliced offset).trans (congrArg _ empty))⟩
  | succ left ih =>
      have earlier : number * size.toNat ≤ (number + (left + 1)) * size.toNat :=
        Nat.mul_le_mul_right _ (Nat.le_add_right number _)
      obtain ⟨offset, begins⟩ := exists_toNat_eq (Nat.lt_of_le_of_lt earlier word)
      by_cases empty : slice offset size items = []
      · exact ⟨[], .last begins ((sliced offset).trans (congrArg _ empty))⟩
      · have shift : number + (left + 1) = number + 1 + left := by omega
        rw [shift] at word beyond
        obtain ⟨pages, rest⟩ := ih word beyond
        exact ⟨_, .next begins (sliced offset) empty rest⟩

/-- Some page begins behind all items if these are no more than half of the words: the second page if it is
that large, and otherwise the one behind the page in which the items end. -/
theorem exists_offset (positive : 0 < size) (fits : 2 * items.length ≤ UInt64.size)
    : ∃ offset : UInt64, size.toNat ∣ offset.toNat ∧ items.length ≤ offset.toNat := by
  by_cases large : items.length ≤ size.toNat
  · exact ⟨size, Nat.dvd_refl _, large⟩
  · let number := items.length / size.toNat + 1
    have sizeNat : 0 < size.toNat := UInt64.lt_iff_toNat_lt.mp positive
    have split := Nat.div_add_mod items.length size.toNat
    have remains := Nat.mod_lt items.length sizeNat
    have count : size.toNat * number = size.toNat * (items.length / size.toNat) + size.toNat :=
      Nat.mul_succ _ _
    obtain ⟨offset, begins⟩ := exists_toNat_eq (show size.toNat * number < UInt64.size by omega)
    exact ⟨offset, ⟨number, begins⟩, by omega⟩

/-- A result of which every page is a slice is what its pages make when they are put together. -/
theorem partitioned_of_sliced {whole : Except QueryError (List α)} (positive : 0 < size)
    (sliced : ∀ offset, answer offset = whole.map (slice offset size))
    : Partitioned size whole answer := by
  have slices {items : List α} (succeeds : whole = .ok items) (offset : UInt64)
      : answer offset = .ok (slice offset size items) := by
    rw [sliced, succeeds]
    rfl
  have ends_iff (items : List α) (succeeds : whole = .ok items)
      : (∃ pages, PagesFrom answer size 0 pages)
        ↔ ∃ offset : UInt64, size.toNat ∣ offset.toNat ∧ items.length ≤ offset.toNat := by
    constructor
    · rintro ⟨pages, asked⟩
      exact asked.exists_offset positive (slices succeeds)
    · rintro ⟨offset, ⟨number, begins⟩, beyond⟩
      have place : (0 + number) * size.toNat = offset.toNat := by
        rw [Nat.zero_add, Nat.mul_comm, begins]
      exact exists_pagesFrom positive (slices succeeds) (place ▸ offset.toNat_lt_size) (place ▸ beyond)
  refine ⟨fun error offset => ?_, ends_iff, fun items succeeds fits => ?_, ?_⟩
  · rw [sliced, map_eq_error]
  · exact (ends_iff items succeeds).mpr (exists_offset positive fits)
  · intro items pages succeeds asked
    rw [asked.flatten_eq positive (slices succeeds), Nat.zero_mul, List.drop_zero]

end Asking

-----------------------------------------------------------------------------------------
-- Pages of arguments
-----------------------------------------------------------------------------------------

namespace Arguments

variable (schema : Schema) (owner : schema.Ty) (arguments : Arguments)
  (hooks : Hooks (schema.Item owner)) (options : ArgumentOptions)

/-- The arguments for the page of `size` items from an offset on. -/
def paged (arguments : Arguments) (offset size : UInt64) : Arguments :=
  { arguments with skip := some offset, take := some size }

/-- What a query that the arguments are recorded as gives, executed on items. -/
def executed (items : List (schema.Item owner)) : Except QueryError (List (schema.Item owner)) :=
  (record schema owner arguments hooks options).outcome.map fun query => query.execute items

section Pages

variable {schema : Schema} {owner : schema.Ty} {arguments : Arguments}
  {hooks : Hooks (schema.Item owner)} {options : ArgumentOptions}

/-- The steps for a page are those for all items, and after them those that take the page. -/
theorem steps_paged (unskipped : arguments.skip = none) (untaken : arguments.take = none)
    (applied : options.omitted = false) (asked : options.applyOrder = true) (offset size : UInt64)
    : (arguments.paged offset size).steps schema owner hooks options
      = (arguments.steps schema owner hooks options).map (· ++ [.skip offset, .take size]) := by
  have same
      : (arguments.paged offset size).idCondition schema owner options
          = arguments.idCondition schema owner options
        ∧ (arguments.paged offset size).whereCondition schema owner hooks
          = arguments.whereCondition schema owner hooks
        ∧ (arguments.paged offset size).orderChain schema owner hooks
          = arguments.orderChain schema owner hooks :=
    ⟨rfl, rfl, rfl⟩
  obtain ⟨sameIds, sameNodes, sameKeys⟩ := same
  simp only [steps, applied, asked, if_true, Bool.false_eq_true, if_false, sameIds, sameNodes, sameKeys]
  cases arguments.idCondition schema owner options with
  | error error => rfl
  | ok identified =>
      cases arguments.whereCondition schema owner hooks with
      | error error => rfl
      | ok filtered =>
          cases arguments.orderChain schema owner hooks with
          | error error => rfl
          | ok chain =>
              simp [pageSteps, paged, unskipped, untaken, Except.map]

/-- A page of a list in memory is a slice of the whole result. -/
theorem applyToList_paged (unskipped : arguments.skip = none) (untaken : arguments.take = none)
    (applied : options.omitted = false) (asked : options.applyOrder = true) (offset size : UInt64)
    (items : List (schema.Item owner))
    : (applyToList schema owner (arguments.paged offset size) hooks options items).outcome
      = (applyToList schema owner arguments hooks options items).outcome.map (slice offset size) := by
  rw [applyToList_eq_steps, applyToList_eq_steps, steps_paged unskipped untaken applied asked]
  cases arguments.steps schema owner hooks options with
  | error error => rfl
  | ok steps =>
      simp only [Except.map, ok_bind, runSteps_append]
      rfl

/-- A recorded query with an order gives what the arguments give on the list in memory. -/
theorem executed_eq_applyToList (ordered : arguments.orderBy ≠ []) (items : List (schema.Item owner))
    : arguments.executed schema owner hooks options items
      = (applyToList schema owner arguments hooks options items).outcome := by
  have unpaged : arguments.unorderedPaging? options = none := by
    simp [unorderedPaging?, ordered]
  rw [executed, record, apply_outcome, unpaged, ite_self, applyToList_eq_steps]
  cases arguments.steps schema owner hooks options with
  | error error => rfl
  | ok steps => exact congrArg Except.ok (execute_runSteps steps _ items)

end Pages

/-- Asked for page after page, arguments that take no page of their own give, on a list in memory, the whole
result in its order, or fail as it does. Executed on the list, the queries that they are recorded as do
too if an order is asked for. -/
theorem applyToList_partitioned (items : List (schema.Item owner)) (size : UInt64) (positive : 0 < size)
    (unskipped : arguments.skip = none) (untaken : arguments.take = none)
    (applied : options.omitted = false) (asked : options.applyOrder = true)
    : Partitioned size (applyToList schema owner arguments hooks options items).outcome
        (fun offset =>
          (applyToList schema owner (arguments.paged offset size) hooks options items).outcome)
      ∧ (arguments.orderBy ≠ [] →
          Partitioned size (arguments.executed schema owner hooks options items)
            (fun offset => (arguments.paged offset size).executed schema owner hooks options items)) := by
  have inMemory
      : Partitioned size (applyToList schema owner arguments hooks options items).outcome
          (fun offset =>
            (applyToList schema owner (arguments.paged offset size) hooks options items).outcome) :=
    partitioned_of_sliced positive fun offset =>
      applyToList_paged unskipped untaken applied asked offset size items
  refine ⟨inMemory, fun ordered => ?_⟩
  have orderedPages (offset : UInt64) : (arguments.paged offset size).orderBy ≠ [] := ordered
  simp only [executed_eq_applyToList ordered, executed_eq_applyToList (orderedPages _)]
  exact inMemory

/-- All exact readings, by level and then by error. -/
def allExactReadings : Arguments where
  nodes := some [Node.leaf "error" .lessThan ["5"]]
  orderBy := [⟨"level", true⟩, ⟨"error", false⟩]

/-- The four exact readings in pages of three, executed by a store. The first page ends between the two
readings without a level, and both are there. -/
theorem applyToList_partitioned_allExactReadings
    : ∃ pages,
        PagesFrom
            (fun offset =>
              (allExactReadings.paged offset 3).executed Gauge.schema () {} {} someReadings)
            3 0 pages
        ∧ (applyToList Gauge.schema () allExactReadings {} {} someReadings).outcome
          = .ok pages.flatten
        ∧ pages.flatten.map Gauge.Reading.level = [some (.ofInt 5), some .nan, none, none] := by
  obtain ⟨items, succeeds, levels⟩ := map_eq_ok.mp (by decide +kernel
    : (applyToList Gauge.schema () allExactReadings {} {} someReadings).outcome.map
        (fun items => (items.length, items.map Gauge.Reading.level))
      = .ok (4, [some (.ofInt 5), some .nan, none, none]))
  obtain ⟨four, levels⟩ := Prod.mk.inj levels
  obtain ⟨-, recorded⟩ :=
    applyToList_partitioned Gauge.schema () allExactReadings {} {} someReadings 3 (by decide) rfl rfl
      rfl rfl
  have ordered : allExactReadings.orderBy ≠ [] := by decide
  have partitioned := recorded ordered
  have executes : allExactReadings.executed Gauge.schema () {} {} someReadings = .ok items :=
    (@executed_eq_applyToList Gauge.schema () allExactReadings {} {} ordered someReadings).trans
      succeeds
  obtain ⟨pages, asked⟩ := partitioned.ends items executes (four ▸ by decide)
  have joined := partitioned.joined items pages executes asked
  exact ⟨pages, asked, joined ▸ succeeds, joined ▸ levels⟩

end Arguments

end TypedQuery
