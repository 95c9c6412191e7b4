import TypedQuery.Proofs.Arguments.Selection
import TypedQuery.Proofs.Order.ByValues
import TypedQuery.Proofs.Source.Places
import TypedQuery.Proofs.Where.Reads

/-! What arguments see of items. They name the paths that they look at. From two lists whose items agree on
these paths, place by place, they select the same places in the same order, or they fail in the
same way; so nothing that they do not name has any influence.
-/

namespace TypedQuery

-----------------------------------------------------------------------------------------
-- Orders
-----------------------------------------------------------------------------------------

section Orders

variable {schema : Schema} {owner : schema.Ty}

/-- Items that agree on a path to a value have values there that are alike. -/
theorem Schema.Agree.alike {path : String} {left right : schema.Item owner} {kind : Kind}
    {nullable : Bool} {read : schema.Item owner → Value}
    (agree : schema.Agree owner path left right)
    (leads : resolve schema owner path = .ok (.value kind nullable read))
    : (read left).Alike (read right) := by
  cases agree with
  | value resolved alike =>
      cases resolved.symm.trans leads
      exact alike
  | elements bare reached lengths agree =>
      obtain ⟨-, collection, inner, -, -, impossible⟩ := (resolve_bracketed_eq_ok bare).mp leads
      cases impossible

variable {ι : Type} {first second : ι → schema.Item owner}

/-- A key that sorts by values does not tell apart items that agree on its path. -/
theorem Order.compare_eq_of_agree {key : OrderKey} {sorting : SortKey (schema.Item owner)}
    (made : Order.propertyKey schema owner key = .ok sorting)
    (agree
      : (∃ target, resolve schema owner key.path = .ok target) →
          ∀ place, schema.Agree owner key.path (first place) (second place))
    (place other : ι)
    : sorting.compare (first place) (first other) = sorting.compare (second place) (second other)
    := by
  obtain ⟨kind, nullable, read, leads, rfl⟩ := Order.propertyKey_eq_ok.mp made
  have alike (place : ι) : (read (first place)).Alike (read (second place)) :=
    (agree ⟨_, leads⟩ place).alike leads
  simp only [SortKey.compare, (alike place).sortCompare?_eq (alike other)]

/-- A chain that sorts by values does not tell apart items that agree on the paths of its keys, by
induction on the keys. -/
theorem Order.blind_of_forall₂ {keys : List OrderKey} {sortings : List (SortKey (schema.Item owner))}
    (made
      : List.Forall₂ (fun key sorting => Order.propertyKey schema owner key = .ok sorting) keys
          sortings)
    (agree
      : ∀ key ∈ keys, (∃ target, resolve schema owner key.path = .ok target) →
          ∀ place, schema.Agree owner key.path (first place) (second place))
    : OrderChain.Blind ⟨sortings⟩ first second := by
  intro place other
  simp only [OrderChain.compare]
  induction made with
  | nil => rfl
  | cons made _ ih =>
      obtain ⟨agreeFirst, agreeRest⟩ := List.forall_mem_cons.mp agree
      have same := Order.compare_eq_of_agree made agreeFirst place other
      rw [OrderChain.compareBy_cons, compareLex, same, compareLex, ih agreeRest]

end Orders

-----------------------------------------------------------------------------------------
-- Arguments
-----------------------------------------------------------------------------------------

namespace Arguments

/-- The path to the key property, if identifiers are to be found in one. -/
def identityPath (arguments : Arguments) (options : ArgumentOptions) : List String :=
  match arguments.ids, options.keyNames with
  | some _, [key] => [key]
  | _, _ => []

/-- The paths that arguments name: that to the key property, those of all clauses at every depth, and those
of the order keys. -/
def namedPaths (arguments : Arguments) (options : ArgumentOptions) : List String :=
  arguments.identityPath options
    ++ (Node.leavesAll (arguments.nodes.getD [])).map Clause.path
    ++ arguments.orderBy.map OrderKey.path

section Blindness

variable {schema : Schema} {owner : schema.Ty} {arguments : Arguments} {options : ArgumentOptions}
  {ι : Type} {first second : ι → schema.Item owner}
  (agree
    : ∀ path ∈ arguments.namedPaths options,
        (∃ target, resolve schema owner path = .ok target) →
        ∀ place, schema.Agree owner path (first place) (second place))

include agree

/-- The filters do not tell the items apart: the identifiers look at the key property only, and the where
tree at the paths of its clauses. -/
theorem blind_of_filters {identified filtered : Option (Predicate (schema.Item owner))}
    (identifies : arguments.idCondition schema owner options = .ok identified)
    (filters : arguments.whereCondition schema owner {} = .ok filtered)
    : ∀ step ∈ identified.toList.map .filter ++ filtered.toList.map .filter,
        QueryStep.Blind first second step := by
  intro step member
  rcases List.mem_append.mp member with member | member
  · obtain ⟨predicate, present, rfl⟩ := List.mem_map.mp member
    obtain rfl := Option.mem_toList.mp present
    cases idCondition_eq_ok.mp identifies with
    | @single ids key _ asked single compiles =>
        obtain ⟨target, _, resolved, _⟩ := Clause.compile_eq_ok.mp compiles
        intro place
        have named : key ∈ arguments.namedPaths options := by
          simp [namedPaths, identityPath, asked, single]
        exact (agree key named ⟨target, resolved⟩ place).test_eq compiles
  · obtain ⟨predicate, present, rfl⟩ := List.mem_map.mp member
    obtain rfl := Option.mem_toList.mp present
    cases whereCondition_eq_ok.mp filters with
    | asked asked compiles =>
        intro place
        refine Where.test_eq_of_agree (fun leaf among resolves => ?_) compiles
        have named : leaf.path ∈ arguments.namedPaths options := by
          simp only [namedPaths, asked, Option.getD_some, List.mem_append, List.mem_map]
          exact .inl (.inr ⟨leaf, among, rfl⟩)
        exact agree leaf.path named resolves place

/-- The steps that order items and take a page do not tell the items apart: the order looks at the paths of
its keys only, and a page at nothing. -/
theorem blind_of_pageSteps {chain : Option (OrderChain (schema.Item owner))}
    (orders : arguments.orderChain schema owner {} = .ok chain)
    : ∀ step ∈ arguments.pageSteps chain, QueryStep.Blind first second step := by
  intro step member
  rcases List.mem_append.mp member with member | member
  · rcases List.mem_append.mp member with member | member
    · obtain ⟨sorting, present, rfl⟩ := List.mem_map.mp member
      obtain rfl := Option.mem_toList.mp present
      refine Order.blind_of_forall₂ (Order.forall₂_of_compile rfl orders) fun key among => ?_
      exact agree key.path (List.mem_append_right _ (List.mem_map_of_mem among))
    · obtain ⟨count, -, rfl⟩ := List.mem_map.mp member
      trivial
  · obtain ⟨count, -, rfl⟩ := List.mem_map.mp member
    trivial

/-- No step of arguments without hooks tells apart items that agree on the paths that they name. -/
theorem blind_of_steps {steps : List (QueryStep (schema.Item owner))}
    (succeeds : arguments.steps schema owner {} options = .ok steps)
    : ∀ step ∈ steps, QueryStep.Blind first second step := by
  cases omission : options.omitted with
  | true =>
      rw [Arguments.steps, if_pos omission] at succeeds
      cases succeeds
      simp
  | false =>
      cases (steps_eq_ok omission).mp succeeds with
      | kept identifies filters unasked => exact blind_of_filters agree identifies filters
      | paged identifies filters asked orders =>
          intro step member
          rcases List.mem_append.mp member with member | member
          · exact blind_of_filters agree identifies filters step member
          · exact blind_of_pageSteps agree orders step member

end Blindness

/-- From two lists of one length whose items agree, place by place, on the paths that the arguments name,
arguments without hooks select the same places in the same order, each at most once; or they fail on
both lists with the same error. Only paths that resolve matter, and nothing else of the items does. -/
theorem applyToList_places (schema : Schema) (owner : schema.Ty) (arguments : Arguments)
    (options : ArgumentOptions) (left right : List (schema.Item owner))
    (lengths : left.length = right.length)
    (agree
      : ∀ path ∈ arguments.namedPaths options,
          (∃ target, resolve schema owner path = .ok target) →
          ∀ place : Fin left.length,
            schema.Agree owner path (left.get place) (right.get (place.cast lengths)))
    : (∃ error,
        (applyToList schema owner arguments {} options left).outcome = .error error
        ∧ (applyToList schema owner arguments {} options right).outcome = .error error)
      ∨ ∃ places : List (Fin left.length),
          places.Nodup
          ∧ (applyToList schema owner arguments {} options left).outcome
            = .ok (places.map left.get)
          ∧ (applyToList schema owner arguments {} options right).outcome
            = .ok (places.map fun place => right.get (place.cast lengths)) := by
  rw [applyToList_eq_steps, applyToList_eq_steps]
  cases succeeds : arguments.steps schema owner {} options with
  | error error => exact .inl ⟨error, rfl, rfl⟩
  | ok steps =>
      have blind := blind_of_steps agree succeeds
      obtain ⟨places, nodup, placed⟩ :=
        exists_placed_runSteps blind (List.finRange left.length) (List.nodup_finRange _)
      have wholeRight
          : (List.finRange left.length).map (fun place => right.get (place.cast lengths)) = right := by
        apply List.ext_getElem <;> simp [lengths]
      rw [List.map_get_finRange, wholeRight] at placed
      exact .inr ⟨places, nodup, congrArg Except.ok placed.left_eq,
        congrArg Except.ok placed.right_eq⟩

/-- A line of which nobody is to know what it is about. -/
def veiledLine (line : Shop.Line) : Shop.Line :=
  { line with article := "" }

/-- An order of which nobody is to know whose it is and what it is about. -/
def veiled (order : Shop.Order) : Shop.Order :=
  { order with customer := "", lines := order.lines.map veiledLine }

/-- An order and the one that it led to. -/
def bothOrders : List Shop.Order :=
  Shop.order :: Shop.order.followUps

/-- The order with the highest number among some that have a line of more than four pieces. -/
def latestLargeOrder : Arguments where
  ids := some ["7", "8", "9"]
  nodes := some [Node.leaf "lines[quantity]" .greaterThan ["4"]]
  orderBy := [⟨"number", true⟩]
  take := some 1

/-- Which order is the latest large one can be told without customers and articles. -/
theorem applyToList_places_veiled
    : ∃ places : List (Fin bothOrders.length),
        places.Nodup
        ∧ (applyToList Shop.schema .order latestLargeOrder {} ⟨["number"], true, false⟩
              bothOrders).outcome
          = .ok (places.map bothOrders.get)
        ∧ (applyToList Shop.schema .order latestLargeOrder {} ⟨["number"], true, false⟩
              (bothOrders.map veiled)).outcome
          = .ok (places.map fun place => veiled (bothOrders.get place)) := by
  have numbers (order : Shop.Order) : Shop.schema.Agree .order "number" order (veiled order) :=
    .value (resolve_name rfl rfl) (.inl rfl)
  have counted (lines : List Shop.Line) (pair : Shop.Line × Shop.Line)
      (member : pair ∈ lines.zip (lines.map veiledLine))
      : pair.1.quantity = pair.2.quantity := by
    obtain ⟨place, bound, rfl⟩ := List.getElem_of_mem member
    simp [veiledLine]
  have quantities (order : Shop.Order)
      : Shop.schema.Agree .order ("lines" ++ "[" ++ "quantity" ++ "]") order (veiled order) := by
    refine .elements (by decide) rfl (List.length_map _).symm fun pair member => ?_
    have same : pair.1.quantity = pair.2.quantity := counted order.lines pair member
    exact .value Shop.resolve_quantity (.inl (by rw [same]))
  have names
      : latestLargeOrder.namedPaths ⟨["number"], true, false⟩
        = ["number", "lines" ++ "[" ++ "quantity" ++ "]", "number"] := by
    decide
  have lengths : bothOrders.length = (bothOrders.map veiled).length := (List.length_map _).symm
  have seen (place : Fin bothOrders.length)
      : (bothOrders.map veiled).get (place.cast lengths) = veiled (bothOrders.get place) := by
    simp
  have agree (path : String) (named : path ∈ latestLargeOrder.namedPaths ⟨["number"], true, false⟩)
      (place : Fin bothOrders.length)
      : Shop.schema.Agree .order path (bothOrders.get place)
          ((bothOrders.map veiled).get (place.cast lengths)) := by
    rw [names] at named
    simp only [List.mem_cons, List.not_mem_nil, or_false] at named
    rcases named with rfl | rfl | rfl
    · exact seen place ▸ numbers _
    · exact seen place ▸ quantities _
    · exact seen place ▸ numbers _
  rcases applyToList_places Shop.schema .order latestLargeOrder ⟨["number"], true, false⟩ bothOrders
    (bothOrders.map veiled) lengths fun path named _ => agree path named
    with ⟨error, fails, -⟩ | ⟨places, nodup, left, right⟩
  · have succeeds
        : (applyToList Shop.schema .order latestLargeOrder {} ⟨["number"], true, false⟩
            bothOrders).outcome.isOk = true := by
      decide +kernel
    rw [fails] at succeeds
    cases succeeds
  · refine ⟨places, nodup, left, right.trans ?_⟩
    exact congrArg Except.ok (List.map_congr_left fun place _ => seen place)

end Arguments

end TypedQuery
