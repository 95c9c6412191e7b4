import Mathlib.Data.List.Forall2
import Mathlib.Data.List.Perm.Basic
import Mathlib.Data.Option.Basic
import TypedQuery.Json.Arguments

/-! Arguments and options read back from JSON. The fields of an object have no order, so a value is read
back from the JSON that is written for it with the fields of all its objects in whatever order. Hence
different values have different JSON; in particular, what is absent is told from what is empty.
-/

namespace TypedQuery

-----------------------------------------------------------------------------------------
-- Fields in another order
-----------------------------------------------------------------------------------------

namespace Json

/-- The values are equal but for the order of the fields of the objects in them. -/
inductive Reordered : Json → Json → Prop
  | refl (json : Json) : Reordered json json
  | array {left right : List Json} (items : List.Forall₂ Reordered left right)
    : Reordered (.array left) (.array right)
  | object {left middle right : List (String × Json)} (order : left.Perm middle)
    (names : middle.map Prod.fst = right.map Prod.fst)
    (values : List.Forall₂ Reordered (middle.map Prod.snd) (right.map Prod.snd))
    : Reordered (.object left) (.object right)

theorem Reordered.eq_null {json : Json} (reordered : Reordered json .null) : json = .null := by
  cases reordered
  rfl

theorem Reordered.array_cases {items : List Json} {json : Json}
    (reordered : Reordered (.array items) json)
    : ∃ others, json = .array others ∧ List.Forall₂ Reordered items others := by
  cases reordered with
  | refl => exact ⟨items, rfl, List.forall₂_same.mpr fun item _ => .refl item⟩
  | array others => exact ⟨_, rfl, others⟩

variable {name other : String} {json : Json} {fields others : List (String × Json)}

theorem field?_cons (value : Json)
    : field? name ((other, value) :: fields)
      = if other = name then some value else field? name fields := by
  rw [field?, List.find?_cons]
  split <;> simp_all [field?]

theorem field?_append
    : field? name (fields ++ others) = (field? name fields).or (field? name others) := by
  simp [field?, List.find?_append, Option.map_or]

/-- Where no two fields have the same name, all of them are found. By induction on the fields. -/
theorem field?_eq_some_iff (distinct : (fields.map Prod.fst).Nodup)
    : field? name fields = some json ↔ (name, json) ∈ fields := by
  induction fields with
  | nil => simp [field?]
  | cons field rest ih =>
      obtain ⟨first, value⟩ := field
      obtain ⟨fresh, distinct⟩ := List.nodup_cons.mp distinct
      rw [field?_cons, List.mem_cons, Prod.mk.injEq]
      split
      · next same =>
        subst same
        have absent : (first, json) ∉ rest := fun member =>
          fresh (List.mem_map.mpr ⟨_, member, rfl⟩)
        simp [absent, eq_comm]
      · next apart =>
        rw [ih distinct]
        simp [Ne.symm apart]

/-- The order of fields does not matter to what is found under a name. -/
theorem field?_eq_of_perm (order : fields.Perm others) (distinct : (fields.map Prod.fst).Nodup)
    : field? name fields = field? name others := by
  have distinctToo : (others.map Prod.fst).Nodup := (order.map Prod.fst).nodup_iff.mp distinct
  ext json
  rw [field?_eq_some_iff distinct, field?_eq_some_iff distinctToo, order.mem_iff]

/-- Fields with the same names one by one are found together, by induction on the fields. -/
theorem rel_field? (names : fields.map Prod.fst = others.map Prod.fst)
    (values : List.Forall₂ Reordered (fields.map Prod.snd) (others.map Prod.snd))
    : Option.Rel Reordered (field? name fields) (field? name others) := by
  induction fields generalizing others with
  | nil =>
      obtain rfl := List.map_eq_nil_iff.mp names.symm
      exact .none
  | cons field rest ih =>
      cases others with
      | nil => cases names
      | cons counterpart others =>
          obtain ⟨first, value⟩ := field
          obtain ⟨second, written⟩ := counterpart
          obtain ⟨rfl, laterNames⟩ := List.cons.inj names
          obtain ⟨same, laterValues⟩ := List.forall₂_cons.mp values
          rw [field?_cons, field?_cons]
          split
          · exact .some same
          · exact ih laterNames laterValues

/-- What is found under a name in one of two objects is found in the other. -/
theorem Reordered.object_cases (reordered : Reordered (.object fields) json)
    (distinct : (fields.map Prod.fst).Nodup)
    : ∃ others, json = .object others
        ∧ ∀ name, Option.Rel Reordered (field? name fields) (field? name others) := by
  cases reordered with
  | refl =>
      refine ⟨fields, rfl, fun name => rel_field? rfl ?_⟩
      exact List.forall₂_same.mpr fun value _ => .refl value
  | object order names values =>
      refine ⟨_, rfl, fun name => ?_⟩
      rw [field?_eq_of_perm order distinct]
      exact rel_field? names values

-----------------------------------------------------------------------------------------
-- Reading back
-----------------------------------------------------------------------------------------

variable {α : Type}

/-- A value is read back from what is written for it, in whatever order the fields of objects come. -/
def ReadsBack (write : α → Json) (read? : Json → Option α) : Prop :=
  ∀ value json, (write value).Reordered json → read? json = some value

variable {write : α → Json} {read? : Json → Option α}

/-- What is read back is written differently from all else. -/
theorem ReadsBack.injective (readsBack : ReadsBack write read?) : Function.Injective write := by
  intro value other same
  have read := readsBack value (write value) (.refl _)
  rw [same, readsBack other (write other) (.refl _)] at read
  exact (Option.some.inj read).symm

theorem readsBack_string : ReadsBack string text? := by
  rintro text json reordered
  cases reordered
  rfl

theorem readsBack_bool : ReadsBack bool flag? := by
  rintro value json reordered
  cases reordered
  rfl

theorem readsBack_count : ReadsBack ofCount count? := by
  rintro count json reordered
  cases reordered
  have fits : count.toNat < UInt64.size := count.toNat_lt_size
  simp [ofCount, count?, fits]

/-- Values are read back by their names if these differ. -/
theorem readsBack_name {all : List α} {nameOf : α → String}
    (named : ∀ value, all.find? (fun candidate => nameOf candidate == nameOf value) = some value)
    : ReadsBack (fun value => string (nameOf value)) (named? all nameOf) := by
  rintro value json reordered
  cases reordered
  exact named value

/-- By induction on the list. -/
theorem ReadsBack.list (readsBack : ReadsBack write read?)
    : ReadsBack (fun values => array (values.map write)) (listOf? read?) := by
  intro values json reordered
  obtain ⟨items, rfl, pairs⟩ := reordered.array_cases
  change items.mapM read? = some values
  clear reordered
  induction values generalizing items with
  | nil =>
      cases pairs
      rfl
  | cons value rest ih =>
      cases pairs with
      | cons first others =>
          rw [List.mapM_cons, readsBack value _ first, ih _ others]
          rfl

/-- A value other than null is read as some value, and null as none. -/
theorem ReadsBack.nullable (readsBack : ReadsBack write read?)
    (filled : ∀ value, write value ≠ .null)
    : ReadsBack (fun value : Option α => (value.map write).getD .null) (nullable? read?) := by
  rintro (_ | value) json reordered
  · cases reordered
    rfl
  · have written : json ≠ .null := by
      rintro rfl
      exact filled value reordered.eq_null
    have read : nullable? read? json = (read? json).map some := by
      cases json <;> first | rfl | exact absurd rfl written
    rw [read, readsBack value json reordered]
    rfl

theorem exists_of_rel_some {found : Option Json}
    (reordered : Option.Rel Reordered (some json) found)
    : ∃ written, found = some written ∧ json.Reordered written := by
  cases reordered with
  | some reordered => exact ⟨_, rfl, reordered⟩

/-- A field that is there is read back. -/
theorem ReadsBack.optionalField (readsBack : ReadsBack write read?) {value default : α}
    {found : Option Json} (reordered : Option.Rel Reordered (some (write value)) found)
    : optionalField? read? default found = some value := by
  cases reordered with
  | some reordered => exact readsBack value _ reordered

theorem field?_fieldIfSome (value : Option α)
    : field? name (fieldIfSome other write value) = if other = name then value.map write else none := by
  cases value <;> simp [fieldIfSome, field?]

theorem names_fieldIfSome_sublist (value : Option α)
    : ((fieldIfSome name write value).map Prod.fst).Sublist [name] := by
  cases value <;> simp [fieldIfSome]

/-- A field that is left out for none is read back. -/
theorem ReadsBack.fieldIfSome {readOption? : Json → Option (Option α)}
    (readsBack : ReadsBack (fun value => (value.map write).getD .null) readOption?)
    {value : Option α} {found : Option Json}
    (reordered : Option.Rel Reordered (value.map write) found)
    : optionalField? readOption? none found = some value := by
  cases value with
  | none =>
      cases reordered
      rfl
  | some value => exact readsBack.optionalField reordered

end Json

open Json

theorem Comparison.readsBack : ReadsBack toJson ofJson? :=
  readsBack_name fun comparison => by cases comparison <;> rfl

theorem Connector.readsBack : ReadsBack toJson ofJson? :=
  readsBack_name fun connector => by cases connector <;> rfl

theorem OrderKey.readsBack : ReadsBack toJson ofJson? := by
  intro key json reordered
  obtain ⟨fields, rfl, found⟩ := reordered.object_cases (by simp)
  obtain ⟨path, present, written⟩ := exists_of_rel_some (found "path")
  simp [ofJson?, record?, present, readsBack_string _ _ written,
    readsBack_bool.optionalField (found "descending")]

-----------------------------------------------------------------------------------------
-- Nodes
-----------------------------------------------------------------------------------------

namespace Node

theorem readsBack_token
    : ReadsBack (fun token : Token => (token.map Json.string).getD .null) tokenOfJson? :=
  readsBack_string.nullable (by simp)

theorem childrenOfFields?_eq (fields : List (String × Json))
    : childrenOfFields? fields
      = match field? "groupedExpressions" fields with
        | none => some none
        | some json => childrenOfJson? json := by
  induction fields with
  | nil => rfl
  | cons field rest ih =>
      obtain ⟨name, json⟩ := field
      rw [childrenOfFields?, field?_cons, ih]
      split <;> rfl

/-- A group is written as a field, also if there are no nodes in it. -/
def childrenFields : Option (List Node) → List (String × Json) :=
  Json.fieldIfSome "groupedExpressions" fun children => .array (listToJson children)

theorem toJson_eq (node : Node)
    : node.toJson
      = .object (bareFields node.path node.comparison node.tokens node.negate node.connector
          ++ childrenFields node.children) := by
  obtain ⟨path, comparison, tokens, negate, connector, children⟩ := node
  cases children with
  | none => simp [toJson, childrenFields, Json.fieldIfSome]
  | some children => rfl

theorem distinct_fields (node : Node)
    : ((bareFields node.path node.comparison node.tokens node.negate node.connector
        ++ childrenFields node.children).map Prod.fst).Nodup := by
  cases children : node.children <;> simp [bareFields, childrenFields, Json.fieldIfSome]

/-- All of a node but its children is read from the fields that are always there. -/
theorem bareOfJson?_of_found {node : Node} {more fields : List (String × Json)}
    (found : ∀ name, Option.Rel Reordered
      (field? name
        (bareFields node.path node.comparison node.tokens node.negate node.connector ++ more))
      (field? name fields))
    : bareOfJson? (.object fields) = some { node with children := none } := by
  simp [bareOfJson?, record?, fieldNames, readsBack_string.optionalField (found "path"),
    Comparison.readsBack.optionalField (found "comparison"),
    readsBack_token.list.optionalField (found "value"),
    readsBack_bool.optionalField (found "negate"),
    Connector.readsBack.optionalField (found "connector")]

/-- The children are read from their field, which is left out if the node is no group. -/
theorem childrenOfFields?_of_found {node : Node} {bare fields : List (String × Json)}
    (apart : field? "groupedExpressions" bare = none)
    (found : Option.Rel Reordered
      (field? "groupedExpressions" (bare ++ childrenFields node.children))
      (field? "groupedExpressions" fields))
    (below : ∀ children ∈ node.children, ∀ items,
      List.Forall₂ Reordered (listToJson children) items → listOfJson? items = some children)
    : childrenOfFields? fields = some node.children := by
  rw [field?_append, apart, Option.none_or] at found
  rw [childrenOfFields?_eq]
  cases group : node.children with
  | none =>
      rw [group] at found
      cases absent : field? "groupedExpressions" fields with
      | none => rfl
      | some json =>
          rw [absent] at found
          cases found
  | some children =>
      rw [group] at found
      obtain ⟨json, present, written⟩ := exists_of_rel_some found
      obtain ⟨items, rfl, pairs⟩ := written.array_cases
      simp [present, childrenOfJson?, below children group items pairs]

mutual

/-- A node is read back, by induction on the node and on its children. -/
theorem readsBack (node : Node) (json : Json) (reordered : node.toJson.Reordered json)
    : ofJson? json = some node := by
  rw [toJson_eq] at reordered
  obtain ⟨fields, rfl, found⟩ := reordered.object_cases node.distinct_fields
  have below : ∀ children ∈ node.children, ∀ items,
      List.Forall₂ Reordered (listToJson children) items → listOfJson? items = some children :=
    fun children group items pairs => readsBack_list children items pairs
  rw [ofJson?, bareOfJson?_of_found found,
    childrenOfFields?_of_found rfl (found "groupedExpressions") below]
  cases node
  rfl
termination_by sizeOf node
decreasing_by
  obtain ⟨path, comparison, tokens, negate, connector, _⟩ := node
  cases group
  decreasing_tactic

theorem readsBack_list (nodes : List Node) (items : List Json)
    (reordered : List.Forall₂ Reordered (listToJson nodes) items)
    : listOfJson? items = some nodes := by
  cases nodes with
  | nil =>
      cases reordered
      rfl
  | cons node rest =>
      cases reordered with
      | cons first others =>
          rw [listOfJson?, readsBack node _ first, readsBack_list rest _ others]
          rfl
termination_by sizeOf nodes

end

end Node

-----------------------------------------------------------------------------------------
-- Arguments and options
-----------------------------------------------------------------------------------------

theorem Node.readsBack_children
    : ReadsBack
        (fun children : Option (List Node) =>
          (children.map fun nodes => Json.array (listToJson nodes)).getD .null)
        childrenOfJson? := by
  rintro (_ | nodes) json reordered
  · cases reordered
    rfl
  · obtain ⟨items, rfl, pairs⟩ := reordered.array_cases
    rw [childrenOfJson?, readsBack_list nodes items pairs]
    rfl

namespace Arguments

/-- The keys of an order, if there are any. -/
def someKeys? (arguments : Arguments) : Option (List OrderKey) :=
  if arguments.orderBy.isEmpty then none else some arguments.orderBy

/-- Each of the arguments is written as a field that is left out if there is nothing to write. -/
def fields (arguments : Arguments) : List (String × Json) :=
  fieldIfSome "ids" (fun ids => .array (ids.map Json.string)) arguments.ids
  ++ fieldIfSome "where" (fun nodes => .array (Node.listToJson nodes)) arguments.nodes
  ++ fieldIfSome "orderBy" (fun keys => .array (keys.map OrderKey.toJson)) arguments.someKeys?
  ++ fieldIfSome "skip" ofCount arguments.skip
  ++ fieldIfSome "take" ofCount arguments.take

theorem toJson_eq (arguments : Arguments) : arguments.toJson = .object arguments.fields := by
  rw [toJson, fields, someKeys?]
  split <;> rfl

theorem distinct_fields (arguments : Arguments) : (arguments.fields.map Prod.fst).Nodup := by
  have among
      : (arguments.fields.map Prod.fst).Sublist
          (["ids"] ++ ["where"] ++ ["orderBy"] ++ ["skip"] ++ ["take"]) := by
    simp only [fields, List.map_append]
    repeat' apply List.Sublist.append
    all_goals exact names_fieldIfSome_sublist _
  exact among.nodup (by decide)

/-- Keys that are left out are none. -/
theorem read_someKeys? {arguments : Arguments} {found : Option Json}
    (reordered : Option.Rel Reordered
      (arguments.someKeys?.map fun keys => .array (keys.map OrderKey.toJson)) found)
    : optionalField? (listOf? OrderKey.ofJson?) [] found = some arguments.orderBy := by
  cases keys : arguments.orderBy with
  | nil =>
      rw [someKeys?, keys] at reordered
      cases reordered
      rfl
  | cons key rest =>
      rw [someKeys?, keys] at reordered
      exact OrderKey.readsBack.list.optionalField reordered

theorem readsBack : ReadsBack toJson ofJson? := by
  intro arguments json reordered
  rw [toJson_eq] at reordered
  obtain ⟨written, rfl, found⟩ := reordered.object_cases arguments.distinct_fields
  simp only [fields, field?_append, field?_fieldIfSome] at found
  have ids := found "ids"
  have nodes := found "where"
  have orderBy := found "orderBy"
  have skip := found "skip"
  have take := found "take"
  simp only [String.reduceEq, if_true, if_false, Option.or_none, Option.none_or]
    at ids nodes orderBy skip take
  have count := readsBack_count.nullable (by simp [ofCount])
  simp [ofJson?, record?, (readsBack_string.list.nullable (by simp)).fieldIfSome ids,
    Node.readsBack_children.fieldIfSome nodes, read_someKeys? orderBy, count.fieldIfSome skip,
    count.fieldIfSome take]

end Arguments

theorem ArgumentOptions.readsBack : ReadsBack toJson ofJson? := by
  intro options json reordered
  obtain ⟨fields, rfl, found⟩ := reordered.object_cases (by simp)
  simp [ofJson?, record?, readsBack_string.list.optionalField (found "keyNames"),
    readsBack_bool.optionalField (found "applyOrder"), readsBack_bool.optionalField (found "omit")]

namespace Json

/-- Nodes, keys, arguments and options are read back from their JSON, be the fields of the objects in it
in the order in which they are written or in another. No identifiers, no nodes and no children are written
in another way than an empty list of them. -/
theorem ofJson?_reordered
    : (∀ node : Node,
          Node.ofJson? node.toJson = some node
          ∧ ∀ json, node.toJson.Reordered json → Node.ofJson? json = some node)
      ∧ (∀ key : OrderKey,
          OrderKey.ofJson? key.toJson = some key
          ∧ ∀ json, key.toJson.Reordered json → OrderKey.ofJson? json = some key)
      ∧ (∀ arguments : Arguments,
          Arguments.ofJson? arguments.toJson = some arguments
          ∧ ∀ json, arguments.toJson.Reordered json → Arguments.ofJson? json = some arguments)
      ∧ (∀ options : ArgumentOptions,
          ArgumentOptions.ofJson? options.toJson = some options
          ∧ ∀ json, options.toJson.Reordered json → ArgumentOptions.ofJson? json = some options)
      ∧ (∀ arguments : Arguments,
          { arguments with ids := none }.toJson ≠ { arguments with ids := some [] }.toJson
          ∧ { arguments with nodes := none }.toJson ≠ { arguments with nodes := some [] }.toJson)
      ∧ ∀ node : Node,
          { node with children := none }.toJson ≠ { node with children := some [] }.toJson := by
  refine ⟨fun node => ⟨?_, node.readsBack⟩, fun key => ⟨?_, OrderKey.readsBack key⟩,
    fun arguments => ⟨?_, Arguments.readsBack arguments⟩,
    fun options => ⟨?_, ArgumentOptions.readsBack options⟩, fun arguments => ⟨?_, ?_⟩, fun node => ?_⟩
  · exact node.readsBack _ (.refl _)
  · exact OrderKey.readsBack key _ (.refl _)
  · exact Arguments.readsBack arguments _ (.refl _)
  · exact ArgumentOptions.readsBack options _ (.refl _)
  · exact Arguments.readsBack.injective.ne (by simp)
  · exact Arguments.readsBack.injective.ne (by simp)
  · exact (ReadsBack.injective Node.readsBack).ne (by simp)

/-- The first items of none at all: of an empty list of identifiers, in a group without nodes that has a
path and a token besides. -/
def emptySelection : Arguments where
  ids := some []
  nodes := some [{ Node.group [] with path := "größe", tokens := [none], connector := .or }]
  skip := some 0

/-- Arguments are read back from their fields in reverse order. -/
theorem ofJson?_reordered_emptySelection
    : emptySelection.toJson.Reordered (.object emptySelection.fields.reverse)
      ∧ Arguments.ofJson? (.object emptySelection.fields.reverse) = some emptySelection := by
  have reordered : emptySelection.toJson.Reordered (.object emptySelection.fields.reverse) := by
    rw [Arguments.toJson_eq]
    exact .object (List.reverse_perm _).symm rfl (List.forall₂_same.mpr fun json _ => .refl json)
  exact ⟨reordered, (ofJson?_reordered.2.2.1 emptySelection).2 _ reordered⟩

end Json

end TypedQuery
