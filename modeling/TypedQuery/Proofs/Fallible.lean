import Mathlib.Data.List.Forall2

/-! Steps that succeed with a value or fail with an error, and when several of them succeed. -/

namespace TypedQuery

variable {ε α β : Type}

theorem exists_eq_ok {result : Except ε α} (succeeds : result.isOk = true)
    : ∃ value, result = .ok value := by
  cases result with
  | error error => cases succeeds
  | ok value => exact ⟨value, rfl⟩

/-- The error of a step that fails. -/
def error? : Except ε α → Option ε
  | .ok _ => none
  | .error error => some error

@[simp] theorem throw_ne_ok {error : ε} {value : α} : (throw error : Except ε α) ≠ .ok value :=
  nofun

@[simp] theorem isOk_ok (value : α) : (.ok value : Except ε α).isOk = true :=
  rfl

@[simp] theorem isOk_error (error : ε) : (.error error : Except ε α).isOk = false :=
  rfl

@[simp] theorem ok_bind (value : α) (next : α → Except ε β) : .ok value >>= next = next value :=
  rfl

@[simp] theorem error_bind (error : ε) (next : α → Except ε β)
    : .error error >>= next = .error error :=
  rfl

/-- Two steps succeed exactly if the first does and the second does on its value. -/
theorem bind_eq_ok {first : Except ε α} {next : α → Except ε β} {value : β}
    : first >>= next = .ok value ↔ ∃ middle, first = .ok middle ∧ next middle = .ok value := by
  cases first <;> simp [bind, Except.bind]

/-- A check in front of a step lets it through exactly if it succeeds. -/
theorem check_eq_ok {check : Except ε Unit} {next : Unit → Except ε β} {value : β}
    : check >>= next = .ok value ↔ check = .ok () ∧ next () = .ok value := by
  cases check <;> simp [bind, Except.bind]

/-- Two steps fail exactly if the first does, or the second does on its value. -/
theorem bind_eq_error {first : Except ε α} {next : α → Except ε β} {error : ε}
    : first >>= next = .error error
      ↔ first = .error error ∨ ∃ middle, first = .ok middle ∧ next middle = .error error := by
  cases first <;> simp [bind, Except.bind]

/-- A step whose value is only changed fails exactly if it does. -/
theorem bind_pure_eq_error {first : Except ε α} {change : α → β} {error : ε}
    : first >>= (fun value => pure (change value)) = .error error ↔ first = .error error := by
  cases first <;> simp [bind, Except.bind, pure, Except.pure]

/-- Two steps fail as the first does, or else as the second does on its value. -/
theorem error?_bind {first : Except ε α} {next : α → Except ε β} {later : Option ε}
    (after : ∀ value, first = .ok value → error? (next value) = later)
    : error? (first >>= next) = (error? first).or later := by
  cases first with
  | error error => rfl
  | ok value => exact after value rfl

@[simp] theorem error?_map (result : Except ε α) (change : α → β)
    : error? (result.map change) = error? result := by
  cases result <;> rfl

theorem error?_eq_none {result : Except ε α} : error? result = none ↔ ∃ value, result = .ok value := by
  cases result <;> simp [error?]

theorem error?_eq_some {result : Except ε α} {error : ε}
    : error? result = some error ↔ result = .error error := by
  cases result <;> simp [error?]

theorem map_eq_ok {result : Except ε α} {change : α → β} {value : β}
    : result.map change = .ok value ↔ ∃ before, result = .ok before ∧ change before = value := by
  cases result <;> simp [Except.map]

theorem map_eq_error {result : Except ε α} {change : α → β} {error : ε}
    : result.map change = .error error ↔ result = .error error := by
  cases result <;> simp [Except.map]

/-- Runs over a list are equal if their steps are equal on its members, by induction on the list. -/
theorem mapM_congr {step other : α → Except ε β} {inputs : List α}
    (agree : ∀ input ∈ inputs, step input = other input)
    : inputs.mapM step = inputs.mapM other := by
  induction inputs with
  | nil => rfl
  | cons input rest ih =>
      obtain ⟨first, later⟩ := List.forall_mem_cons.mp agree
      rw [List.mapM_cons, List.mapM_cons, first, ih later]

/-- A run over a list succeeds exactly if every step does, and gives their values in order, by
induction on the list. -/
theorem mapM_eq_ok {step : α → Except ε β} {inputs : List α} {values : List β}
    : inputs.mapM step = .ok values
      ↔ List.Forall₂ (fun input value => step input = .ok value) inputs values := by
  induction inputs generalizing values with
  | nil => simp [pure, Except.pure, eq_comm]
  | cons input rest ih =>
      simp only [List.mapM_cons, bind_eq_ok, ih, List.forall₂_cons_left_iff]
      constructor
      · rintro ⟨value, done, others, doneAll, same⟩
        cases same
        exact ⟨value, others, done, doneAll, rfl⟩
      · rintro ⟨value, others, done, doneAll, rfl⟩
        exact ⟨value, done, others, doneAll, rfl⟩

/-- A run over a list fails exactly if some step does that comes after steps which all succeed, and
then as this step does. By induction on the list. -/
theorem mapM_eq_error {step : α → Except ε β} {inputs : List α} {error : ε}
    : inputs.mapM step = .error error
      ↔ ∃ before input after, inputs = before ++ input :: after
          ∧ (∀ earlier ∈ before, ∃ value, step earlier = .ok value)
          ∧ step input = .error error := by
  induction inputs with
  | nil => simp [pure, Except.pure]
  | cons input rest ih =>
      rw [List.mapM_cons, bind_eq_error]
      constructor
      · rintro (failed | ⟨value, done, failed⟩)
        · exact ⟨[], input, rest, rfl, by simp, failed⟩
        · obtain ⟨before, later, after, rfl, succeed, fails⟩ :=
            ih.mp (bind_pure_eq_error.mp failed)
          refine ⟨input :: before, later, after, rfl, ?_, fails⟩
          exact List.forall_mem_cons.mpr ⟨⟨value, done⟩, succeed⟩
      · rintro ⟨before, later, after, same, succeed, fails⟩
        cases before with
        | nil =>
            cases same
            exact .inl fails
        | cons first others =>
            cases same
            obtain ⟨⟨value, done⟩, succeed⟩ := List.forall_mem_cons.mp succeed
            refine .inr ⟨value, done, ?_⟩
            rw [ih.mpr ⟨others, later, after, rfl, succeed, fails⟩, error_bind]

/-- In two lists related place by place, every member of the second one has its counterpart. -/
theorem exists_of_mem_right {related : α → β → Prop} {inputs : List α} {values : List β}
    (pairs : List.Forall₂ related inputs values) {value : β} (member : value ∈ values)
    : ∃ input ∈ inputs, related input value := by
  induction pairs with
  | nil => cases member
  | cons pair _ ih =>
      rcases List.mem_cons.mp member with same | later
      · exact ⟨_, List.mem_cons_self, same ▸ pair⟩
      · obtain ⟨input, among, pair⟩ := ih later
        exact ⟨input, List.mem_cons_of_mem _ among, pair⟩

end TypedQuery
