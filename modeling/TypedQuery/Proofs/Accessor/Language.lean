import TypedQuery.Proofs.Accessor.Links

/-! The language of paths that a type understands. It is read off the schema alone, name by name, and
is exactly what resolution accepts: brackets that are out of place are all refused, the ones inside
an element path by the type of the elements.
-/

namespace TypedQuery

/-- A word that can name a property in a path. -/
def Path.IsName (name : String) : Prop :=
  name ≠ "" ∧ '.' ∉ name.toList ∧ '[' ∉ name.toList ∧ ']' ∉ name.toList

instance (name : String) : Decidable (Path.IsName name) :=
  inferInstanceAs (Decidable (_ ∧ _))

/-- A name alone is a path, with something in its bracket if it has one. -/
theorem Path.IsName.isWritable {name : String} {element : Option String} (isName : Path.IsName name)
    (filled : element ≠ some "")
    : Path.IsWritable ⟨[name], element⟩ := by
  obtain ⟨word, dotless, opening, closing⟩ := isName
  exact {
    named := by simp
    words := by simp [word, dotless, opening]
    filled := filled
    unclosed := by simp [closing]
  }

theorem Path.IsName.parse_name {name : String} (isName : Path.IsName name)
    : Path.parse name = .ok ⟨[name], none⟩ := by
  have writable : Path.IsWritable ⟨[name], none⟩ := isName.isWritable (by simp)
  rw [← Path.parse_toText writable, Path.toText_name]

theorem Path.IsName.parse_bracketed {name element : String} (isName : Path.IsName name)
    (filled : element ≠ "")
    : Path.parse (name ++ "[" ++ element ++ "]") = .ok ⟨[name], some element⟩ := by
  have writable : Path.IsWritable ⟨[name], some element⟩ := isName.isWritable (by simpa using filled)
  rw [← Path.parse_toText writable, Path.toText_bracketed]

/-- A path after another name is a path of one more name. -/
theorem Path.IsName.parse_cons {name rest : String} {path : Path} (isName : Path.IsName name)
    (parsed : Path.parse rest = .ok path)
    : Path.parse (name ++ "." ++ rest) = .ok ⟨name :: path.segments, path.element⟩ := by
  obtain ⟨word, dotless, opening, closing⟩ := isName
  obtain ⟨writable, rfl⟩ := Path.isWritable_of_parse parsed
  have longer : Path.IsWritable ⟨name :: path.segments, path.element⟩ := by
    refine ⟨by simp, ?_, writable.filled, ?_⟩
    · intro other member
      rcases List.mem_cons.mp member with rfl | later
      · exact ⟨word, dotless, opening⟩
      · exact writable.words other later
    · intro plain other member
      rcases List.mem_cons.mp member with rfl | later
      · exact closing
      · exact writable.unclosed plain other later
  rw [← Path.parse_toText longer, Path.toText_cons writable.named]

/-- No property has a bracket in its name. -/
def Schema.Unbracketed (schema : Schema) : Prop :=
  ∀ owner name, (schema.property? owner name).isSome = true →
    '[' ∉ name.toList ∧ ']' ∉ name.toList

/-- A name that is looked up with success has no bracket if no property has one, even if it is found
in another case. -/
theorem Schema.Unbracketed.of_lookup? {schema : Schema} {owner : schema.Ty} {name : String}
    {property : Property schema.Item owner} (unbracketed : schema.Unbracketed)
    (found : schema.lookup? owner name = some property)
    : '[' ∉ name.toList ∧ ']' ∉ name.toList := by
  obtain ⟨listed, declared, same⟩ := Schema.property?_of_lookup? found
  obtain ⟨opening, closing⟩ := unbracketed owner listed (by simp [declared])
  exact ⟨fun member => opening (Text.mem_of_sameLetters (by decide) same member),
    fun member => closing (Text.mem_of_sameLetters (by decide) same member)⟩

/-- The paths that the items of a type understand: the name of a value; the name of an object and a
path that the object understands, with a dot between them; the name of a collection with a path that
its elements understand in a bracket. -/
inductive Schema.Language (schema : Schema) : schema.Ty → String → Prop
  | value {owner name kind nullable read} (isName : Path.IsName name)
    (found : schema.lookup? owner name = some (.scalar kind nullable read))
    : Language schema owner name
  | object {owner name linked get rest} (isName : Path.IsName name)
    (found : schema.lookup? owner name = some (.object linked get))
    (below : Language schema linked rest)
    : Language schema owner (name ++ "." ++ rest)
  | optionalObject {owner name linked get rest} (isName : Path.IsName name)
    (found : schema.lookup? owner name = some (.optionalObject linked get))
    (below : Language schema linked rest)
    : Language schema owner (name ++ "." ++ rest)
  | elements {owner name element get inner} (isName : Path.IsName name)
    (found : schema.lookup? owner name = some (.collection element get))
    (within : Language schema element inner)
    : Language schema owner (name ++ "[" ++ inner ++ "]")

-----------------------------------------------------------------------------------------
-- What resolution accepts is in the language
-----------------------------------------------------------------------------------------

section Accepted

variable {schema : Schema} {owner : schema.Ty} {path : Path} {names : List String}
  {target : Target schema owner}
  {descend : (element : schema.Ty) → Except Fault (String × Target schema element)}

/-- Names that are followed to a target are in the language, with what is in their bracket. By
induction on the way there. -/
theorem Follows.language (unbracketed : schema.Unbracketed)
    (follows : Follows schema path descend owner names target)
    (words : ∀ name ∈ names, name ≠ "" ∧ '.' ∉ name.toList)
    (within
      : ∀ element elementPath inner, descend element = .ok (elementPath, inner) →
          path.element = some elementPath ∧ schema.Language element elementPath)
    : schema.Language owner (Path.toText ⟨names, path.element⟩) := by
  have isName {owner : schema.Ty} {name : String} {property : Property schema.Item owner}
      (found : schema.lookup? owner name = some property)
      (word : name ≠ "" ∧ '.' ∉ name.toList)
      : Path.IsName name :=
    ⟨word.1, word.2, unbracketed.of_lookup? found⟩
  induction follows with
  | value found plain =>
      have none_left : path.element = none := by simpa [Path.isCollection] using plain
      rw [none_left, Path.toText_name]
      exact .value (isName found (words _ (by simp))) found
  | object found below ih =>
      rw [Path.toText_cons below.names_ne_nil]
      exact .object (isName found (words _ (by simp))) found
        (ih fun name later => words name (by simp [later]))
  | optionalObject found below ih =>
      rw [Path.toText_cons below.names_ne_nil]
      exact .optionalObject (isName found (words _ (by simp))) found
        (ih fun name later => words name (by simp [later]))
  | elements found bracketed descended =>
      obtain ⟨inBracket, language⟩ := within _ _ _ descended
      rw [inBracket, Path.toText_bracketed]
      exact .elements (isName found (words _ (by simp))) found language

end Accepted

/-- A path that resolves is in the language, by induction on its length: the text in its bracket is
shorter. -/
theorem language_of_resolve {schema : Schema} (unbracketed : schema.Unbracketed)
    {owner : schema.Ty} {raw : String} {target : Target schema owner}
    (resolved : resolve schema owner raw = .ok target)
    : schema.Language owner raw := by
  rw [resolve_eq] at resolved
  split at resolved
  · cases resolved
  · next path parsed =>
    obtain ⟨writable, spelled⟩ := Path.isWritable_of_parse parsed
    have words : ∀ name ∈ path.segments, name ≠ "" ∧ '.' ∉ name.toList := by
      intro name member
      obtain ⟨filled, dotless, -⟩ := writable.words name member
      exact ⟨filled, dotless⟩
    have language : schema.Language owner (Path.toText ⟨path.segments, path.element⟩) := by
      refine (follows_of_followSegments resolved).language unbracketed words ?_
      intro element elementPath inner descended
      obtain ⟨bracketed, resolves⟩ := descendInto_eq_ok.mp descended
      have shorter : elementPath.length < raw.length := Path.element_length_lt parsed bracketed
      exact ⟨bracketed, language_of_resolve unbracketed resolves⟩
    exact spelled ▸ language
termination_by raw.length

-----------------------------------------------------------------------------------------
-- What is in the language is accepted
-----------------------------------------------------------------------------------------

section Accepting

variable {schema : Schema} {owner : schema.Ty} {raw : String}

/-- A path of the language can be read, and its names can be followed, also as the last names of a
longer path with the same bracket. By induction on the language. -/
theorem Schema.Language.follows (language : schema.Language owner raw)
    : ∃ path, Path.parse raw = .ok path
        ∧ ∀ (whole : Path) (start : schema.Ty) (text : String),
            whole.element = path.element →
            ∃ target, Follows schema whole (descendInto schema start text whole) owner
              path.segments target := by
  induction language with
  | value isName found =>
      next name kind nullable read =>
      refine ⟨⟨[name], none⟩, isName.parse_name, fun whole start text same => ?_⟩
      have plain : whole.isCollection = false := by simp [Path.isCollection, same]
      exact ⟨_, .value found plain⟩
  | object isName found below ih =>
      obtain ⟨path, parsed, followed⟩ := ih
      refine ⟨_, isName.parse_cons parsed, fun whole start text same => ?_⟩
      obtain ⟨target, follows⟩ := followed whole start text same
      exact ⟨_, .object found follows⟩
  | optionalObject isName found below ih =>
      obtain ⟨path, parsed, followed⟩ := ih
      refine ⟨_, isName.parse_cons parsed, fun whole start text same => ?_⟩
      obtain ⟨target, follows⟩ := followed whole start text same
      exact ⟨_, .optionalObject found follows⟩
  | elements isName found within ih =>
      next name element get inner =>
      obtain ⟨path, parsed, followed⟩ := ih
      have filled : inner ≠ "" := by
        rintro rfl
        cases parsed
      refine ⟨⟨[name], some inner⟩, isName.parse_bracketed filled, fun whole start text same => ?_⟩
      obtain ⟨target, follows⟩ := followed path element inner rfl
      have resolves : resolve schema element inner = .ok target := follows.resolve_eq_ok parsed
      have bracketed : whole.isCollection = true := by simp [Path.isCollection, same]
      exact ⟨_, .elements found bracketed (descendInto_eq_ok.mpr ⟨same, resolves⟩)⟩

/-- A path of the language resolves. -/
theorem Schema.Language.resolves (language : schema.Language owner raw)
    : ∃ target, resolve schema owner raw = .ok target := by
  obtain ⟨path, parsed, followed⟩ := language.follows
  obtain ⟨target, follows⟩ := followed path owner raw rfl
  exact ⟨target, follows.resolve_eq_ok parsed⟩

end Accepting

-----------------------------------------------------------------------------------------
-- What a path means
-----------------------------------------------------------------------------------------

/-- If no property has a bracket in its name, exactly the paths of the language resolve. Those with a
bracket address a collection. Those without one name links and a value of the object at their end, of
whose kind the accessor is: from every item it reads null where a link is missing and what the value's own
reader gives otherwise. Its flag says that the value can be null or a link is optional; an accessor can
read null if the flag says so, or if it reads a text. -/
theorem Accessor.resolve_language {schema : Schema} (unbracketed : schema.Unbracketed)
    (owner : schema.Ty) (path : String)
    : ((∃ accessor, Accessor.resolve schema owner path = .ok accessor)
        ↔ schema.Language owner path)
      ∧ ∀ accessor, Accessor.resolve schema owner path = .ok accessor →
          (accessor.isCollection = true ↔ '[' ∈ path.toList ∨ ']' ∈ path.toList)
          ∧ (accessor.isCollection = false →
              ∃ links name way kind nullable read,
                Path.names path = links ++ [name]
                ∧ schema.wayAlong? owner links = some way
                ∧ schema.lookup? way.last name = some (.scalar kind nullable read)
                ∧ accessor.kind? = some kind
                ∧ accessor.isNullable = (nullable || way.optional || kind == .text)
                ∧ (∀ item, accessor.read? item = some (((way.object? item).map read).getD .null))
                ∧ accessor.target = .value kind (nullable || way.optional) fun item =>
                    ((way.object? item).map read).getD .null) := by
  constructor
  · constructor
    · rintro ⟨accessor, resolved⟩
      obtain ⟨target, leads, -⟩ := Accessor.resolve_eq_ok.mp resolved
      exact language_of_resolve unbracketed leads
    · intro language
      obtain ⟨target, leads⟩ := language.resolves
      exact ⟨⟨path, target⟩, Accessor.resolve_eq_ok.mpr ⟨target, leads, rfl⟩⟩
  · intro accessor resolved
    obtain ⟨target, leads, rfl⟩ := Accessor.resolve_eq_ok.mp resolved
    rw [Accessor.isCollection_eq]
    refine ⟨isCollection_iff_of_resolve leads, fun single => ?_⟩
    obtain ⟨links, name, way, kind, nullable, read, spelled, along, found, rfl⟩ :=
      resolve_atEnd leads single
    exact ⟨links, name, way, kind, nullable, read, spelled, along, found, rfl, rfl, fun _ => rfl, rfl⟩

/-- No property of a shop has a bracket in its name. -/
theorem Shop.unbracketed : Shop.schema.Unbracketed := by
  intro (owner : Shop.Ty) name known
  dsimp only [Shop.schema] at known
  split at known
  case h_8 => cases known
  all_goals decide

/-- Orders understand the path to the quantity of their gift, over the gift, which is optional. An
order without a gift reads null there, and its follow-up reads the quantity. -/
theorem Accessor.resolve_language_giftQuantity
    : Shop.schema.Unbracketed
      ∧ Shop.schema.Language .order "gift.quantity"
      ∧ ∃ accessor, Accessor.resolve Shop.schema .order "gift.quantity" = .ok accessor
          ∧ accessor.isCollection = false
          ∧ accessor.kind? = some .integer
          ∧ accessor.isNullable = true
          ∧ accessor.read? Shop.order = some .null
          ∧ Shop.order.followUps.map accessor.read? = [some (.number (.signed 1))] := by
  obtain ⟨accepts, means⟩ := Accessor.resolve_language Shop.unbracketed .order "gift.quantity"
  have gift : Path.IsName "gift" := by decide
  have quantity : Path.IsName "quantity" := by decide
  have language : Shop.schema.Language .order "gift.quantity" :=
    .optionalObject gift rfl (.value quantity rfl)
  obtain ⟨accessor, resolved⟩ := accepts.mpr language
  obtain ⟨bracketed, meaning⟩ := means accessor resolved
  have single : accessor.isCollection = false :=
    Bool.eq_false_iff.mpr fun elements => absurd (bracketed.mp elements) (by decide)
  obtain ⟨links, name, way, kind, nullable, read, spelled, along, found, ofKind, canBeNull, reads, -⟩ :=
    meaning single
  have names : Path.names "gift.quantity" = ["gift"] ++ ["quantity"] := by decide
  obtain ⟨rfl, ⟨⟩⟩ := List.append_inj' (names.symm.trans spelled) rfl
  cases along
  cases found
  exact ⟨Shop.unbracketed, language, accessor, resolved, single, ofKind, canBeNull, reads Shop.order,
    (List.map_congr_left fun item _ => reads item).trans rfl⟩

end TypedQuery
