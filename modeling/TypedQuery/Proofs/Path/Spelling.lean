import Mathlib.Data.List.Basic
import TypedQuery.Proofs.Path.Names

/-! The texts that are paths. A text is read as a path exactly if it spells one out: names with dots
between them, and at the end a bracket with a text in it, if there is one. Reading and writing paths
are inverse to each other.
-/

namespace TypedQuery.Path

/-- The path can be written: it has names, every name is a word without dots and opening brackets,
and the bracket holds some text. Without a bracket no name has a closing one. -/
structure IsWritable (path : Path) : Prop where
  named : path.segments ≠ []
  words : ∀ name ∈ path.segments, name ≠ "" ∧ '.' ∉ name.toList ∧ '[' ∉ name.toList
  filled : path.element ≠ some ""
  unclosed : path.element = none → ∀ name ∈ path.segments, ']' ∉ name.toList

-----------------------------------------------------------------------------------------
-- Pieces between dots
-----------------------------------------------------------------------------------------

/-- The pieces of a text have no dots, and all their characters are from the text. By induction on
the text. -/
theorem mem_splitAtDots {text piece : List Char} (member : piece ∈ splitAtDots text)
    : '.' ∉ piece ∧ piece ⊆ text := by
  induction text generalizing piece with
  | nil =>
      obtain rfl : piece = [] := by simpa [splitAtDots] using member
      simp
  | cons character rest ih =>
      have pieces : splitAtDots rest ≠ [] := by
        rw [splitAtDots_eq_splitOn]
        exact List.splitOn_ne_nil '.' rest
      obtain ⟨head, tail, split_eq⟩ := List.exists_cons_of_ne_nil pieces
      rw [split_eq] at ih
      simp only [splitAtDots, split_eq] at member
      by_cases dot : character = '.'
      · simp only [dot, if_true, List.mem_cons] at member
        rcases member with rfl | member
        · simp
        · obtain ⟨free, within⟩ := ih (List.mem_cons.mpr member)
          exact ⟨free, List.Subset.trans within (List.subset_cons_self character rest)⟩
      · simp only [dot, if_false, List.headD_cons, List.tail_cons, List.mem_cons] at member
        rcases member with rfl | member
        · obtain ⟨free, within⟩ := ih List.mem_cons_self
          refine ⟨?_, List.cons_subset_cons character within⟩
          simp [free, Ne.symm dot]
        · obtain ⟨free, within⟩ := ih (List.mem_cons_of_mem head member)
          exact ⟨free, List.Subset.trans within (List.subset_cons_self character rest)⟩

/-- The characters of joined names are dots and the characters of the names. By induction on the
names. -/
theorem mem_intercalate_dots {names : List String} {character : Char}
    (member : character ∈ (String.intercalate "." names).toList)
    : character = '.' ∨ ∃ name ∈ names, character ∈ name.toList := by
  induction names with
  | nil => simp at member
  | cons name rest ih =>
      cases rest with
      | nil => exact .inr ⟨name, by simp, by simpa using member⟩
      | cons next others =>
          simp only [String.intercalate_cons_cons, String.toList_append, List.mem_append] at member
          rcases member with (inName | dot) | later
          · exact .inr ⟨name, by simp, inName⟩
          · exact .inl (by simpa using dot)
          · rcases ih later with dot | ⟨other, among, inOther⟩
            · exact .inl dot
            · exact .inr ⟨other, List.mem_cons_of_mem name among, inOther⟩

/-- The names in a text, joined again, are the text. -/
theorem intercalate_names (dotted : String) : String.intercalate "." (names dotted) = dotted := by
  apply String.toList_inj.mp
  rw [String.toList_intercalate, names, List.map_map, splitAtDots_eq_splitOn]
  simp [Function.comp_def, List.intercalate_splitOn]

/-- Names without dots are the names in the text that joins them. -/
theorem names_intercalate {words : List String} (some_word : words ≠ [])
    (dotless : ∀ name ∈ words, '.' ∉ name.toList)
    : names (String.intercalate "." words) = words := by
  rw [names, String.toList_intercalate, splitAtDots_eq_splitOn]
  have split : (['.'].intercalate (words.map String.toList)).splitOn '.'
      = words.map String.toList := by
    apply List.splitOn_intercalate
    · simpa using dotless
    · simpa using some_word
  simp [split, Function.comp_def]

namespace IsWritable

variable {path : Path}

/-- The names of a path that can be written hold no opening bracket. -/
theorem bare (writable : path.IsWritable)
    : '[' ∉ (String.intercalate "." path.segments).toList := by
  intro opens
  rcases mem_intercalate_dots opens with dot | ⟨name, member, inName⟩
  · exact absurd dot (by decide)
  · exact (writable.words name member).2.2 inName

/-- The names of a path without a bracket hold no closing bracket. -/
theorem closed (writable : path.IsWritable) (plain : path.element = none)
    : ']' ∉ (String.intercalate "." path.segments).toList := by
  intro closes
  rcases mem_intercalate_dots closes with dot | ⟨name, member, inName⟩
  · exact absurd dot (by decide)
  · exact writable.unclosed plain name member inName

end IsWritable

-----------------------------------------------------------------------------------------
-- Brackets
-----------------------------------------------------------------------------------------

/-- What precedes the first opening bracket is what is taken off a text up to it. -/
theorem span_opening {outer rest : List Char} (bare : '[' ∉ outer)
    : (outer ++ rest).takeWhile (· != '[') = outer ++ rest.takeWhile (· != '[')
      ∧ (outer ++ rest).dropWhile (· != '[') = rest.dropWhile (· != '[') := by
  have outside : ∀ character ∈ outer, (character != '[') = true := by
    intro character member
    simpa using fun same : character = '[' => bare (same ▸ member)
  exact ⟨List.takeWhile_append_of_pos outside, List.dropWhile_append_of_pos outside⟩

/-- A text without an opening bracket has no bracket at all. -/
theorem splitBracket_of_not_mem {text : List Char} (bare : '[' ∉ text)
    : splitBracket text
      = if ']' ∈ text then .error .unbalancedBracket else .ok (text, none) := by
  have whole := @span_opening text [] bare
  simp only [List.append_nil, List.takeWhile_nil, List.dropWhile_nil] at whole
  simp [splitBracket, whole.1, whole.2]

/-- A text is split where its first bracket opens, which must close at the end. -/
theorem splitBracket_append {outer rest : List Char} (bare : '[' ∉ outer)
    : splitBracket (outer ++ '[' :: rest)
      = if rest.getLast? ≠ some ']' then .error .notClosedAtEnd
        else if rest.dropLast = [] then .error .emptyBracket
        else .ok (outer, some rest.dropLast) := by
  obtain ⟨before, after⟩ := @span_opening outer ('[' :: rest) bare
  simp [splitBracket, before, after]

/-- The text in front of a bracket has no other bracket open, and gives the text that was split
together with what is in the bracket. -/
theorem splitBracket_eq_ok {text outer : List Char} {element : Option (List Char)}
    : splitBracket text = .ok (outer, element)
      ↔ '[' ∉ outer
        ∧ match element with
          | none => ']' ∉ outer ∧ text = outer
          | some inner => inner ≠ [] ∧ text = outer ++ '[' :: (inner ++ [']']) := by
  constructor
  · intro split
    by_cases opens : '[' ∈ text
    · obtain ⟨before, rest, rfl, bare⟩ := List.eq_append_cons_of_mem opens
      rw [splitBracket_append bare] at split
      split at split
      · cases split
      · next closes =>
        split at split
        · cases split
        · next filled =>
          cases split
          have last : rest.dropLast ++ [']'] = rest :=
            List.dropLast_append_getLast? ']' (not_not.mp closes)
          exact ⟨bare, filled, by rw [last]⟩
    · rw [splitBracket_of_not_mem opens] at split
      split at split
      · cases split
      · next unclosed =>
        cases split
        exact ⟨opens, unclosed, rfl⟩
  · rintro ⟨bare, spelled⟩
    cases element with
    | none =>
        obtain ⟨unclosed, rfl⟩ := spelled
        rw [splitBracket_of_not_mem bare, if_neg unclosed]
    | some inner =>
        obtain ⟨filled, rfl⟩ := spelled
        simp [splitBracket_append bare, filled]

-----------------------------------------------------------------------------------------
-- Reading and writing
-----------------------------------------------------------------------------------------

/-- A text is read as a path exactly if it can be split at its bracket and no name before the
bracket is empty. -/
theorem parse_eq_ok_iff_split {raw : String} {path : Path}
    : parse raw = .ok path
      ↔ ∃ outer element, splitBracket raw.toList = .ok (outer, element)
          ∧ [] ∉ splitAtDots outer
          ∧ ⟨(splitAtDots outer).map String.ofList, element.map String.ofList⟩ = path := by
  have gap_iff (outer : List Char)
      : (splitAtDots outer).any List.isEmpty = true ↔ [] ∈ splitAtDots outer := by
    simp
  unfold parse
  split
  · next empty =>
    -- The empty text splits into one empty name.
    have nothing : raw.toList = [] := List.isEmpty_iff.mp empty
    simp [nothing, splitBracket, splitAtDots]
  · cases split : splitBracket raw.toList with
    | error flaw => simp
    | ok parts =>
        obtain ⟨outer, element⟩ := parts
        simp only [gap_iff, Except.ok.injEq, Prod.mk.injEq, ↓existsAndEq, true_and]
        split <;> simp_all

/-- What is read can be written, and writing it gives the text back. -/
theorem isWritable_of_parse {raw : String} {path : Path} (parsed : parse raw = .ok path)
    : path.IsWritable ∧ path.toText = raw := by
  obtain ⟨outer, element, split, words, rfl⟩ := parse_eq_ok_iff_split.mp parsed
  obtain ⟨bare, spelled⟩ := splitBracket_eq_ok.mp split
  have pieces : splitAtDots outer ≠ [] := by
    rw [splitAtDots_eq_splitOn]
    exact List.splitOn_ne_nil '.' outer
  have dotted : String.intercalate "." ((splitAtDots outer).map String.ofList)
      = String.ofList outer := by
    simpa only [names, String.toList_ofList] using intercalate_names (String.ofList outer)
  have word (name : String) (member : name ∈ (splitAtDots outer).map String.ofList)
      : name ≠ "" ∧ '.' ∉ name.toList ∧ name.toList ⊆ outer := by
    obtain ⟨piece, among, rfl⟩ := List.mem_map.mp member
    obtain ⟨dotless, within⟩ := mem_splitAtDots among
    have filled : piece ≠ [] := fun empty => words (empty ▸ among)
    simpa [dotless, within] using filled
  refine ⟨⟨by simpa using pieces, fun name member => ?_, ?_, fun plain name member => ?_⟩, ?_⟩
  · obtain ⟨filled, dotless, within⟩ := word name member
    exact ⟨filled, dotless, fun opens => bare (within opens)⟩
  · cases element with
    | none => simp
    | some inner => simpa using spelled.1
  · cases element with
    | none => exact fun closes => spelled.1 ((word name member).2.2 closes)
    | some inner => cases plain
  · apply String.toList_inj.mp
    cases element with
    | none => simp [toText, dotted, spelled.2]
    | some inner => simp [toText, dotted, spelled.2]

/-- A path that can be written is read back from its text. -/
theorem parse_toText {path : Path} (writable : path.IsWritable)
    : parse path.toText = .ok path := by
  obtain ⟨segments, element⟩ := path
  have dotless : ∀ name ∈ segments, '.' ∉ name.toList :=
    fun name member => (writable.words name member).2.1
  have read : names (String.intercalate "." segments) = segments :=
    names_intercalate writable.named dotless
  refine parse_eq_ok_iff_split.mpr
    ⟨(String.intercalate "." segments).toList, element.map String.toList,
      splitBracket_eq_ok.mpr ⟨writable.bare, ?_⟩, fun empty => ?_, ?_⟩
  · cases element with
    | none => exact ⟨writable.closed rfl, rfl⟩
    | some inner =>
        have filled : inner ≠ "" := by simpa using writable.filled
        simpa [toText] using filled
  · have blank : "" ∈ segments := by
      rw [← read]
      exact List.mem_map_of_mem (f := String.ofList) empty
    exact (writable.words "" blank).1 rfl
  · have kept : (element.map String.toList).map String.ofList = element := by simp [Function.comp_def]
    rw [kept]
    exact congrArg (Path.mk · element) read

/-- A text is read as a path exactly if the path can be written and is written as this text. -/
theorem parse_eq_ok {raw : String} {path : Path}
    : parse raw = .ok path ↔ path.IsWritable ∧ path.toText = raw := by
  refine ⟨isWritable_of_parse, ?_⟩
  rintro ⟨writable, rfl⟩
  exact parse_toText writable

/-- One name is its own text, before a bracket if there is one. -/
theorem toText_name (name : String) : toText ⟨[name], none⟩ = name := by
  simp [toText]

theorem toText_bracketed (name element : String)
    : toText ⟨[name], some element⟩ = name ++ "[" ++ element ++ "]" := by
  simp [toText]

/-- A path of several names is the first name, a dot, and the path of the others. -/
theorem toText_cons {name : String} {rest : List String} {element : Option String}
    (more : rest ≠ [])
    : toText ⟨name :: rest, element⟩ = name ++ "." ++ toText ⟨rest, element⟩ := by
  obtain ⟨next, others, rfl⟩ := List.exists_cons_of_ne_nil more
  cases element <;> simp [toText, String.intercalate_cons_cons, String.append_assoc]

/-- What is read as a path has a bracket exactly if it has a bracket character. -/
theorem isCollection_iff_of_parse {raw : String} {path : Path} (parsed : parse raw = .ok path)
    : path.isCollection = true ↔ '[' ∈ raw.toList ∨ ']' ∈ raw.toList := by
  obtain ⟨writable, rfl⟩ := isWritable_of_parse parsed
  obtain ⟨segments, element⟩ := path
  cases element with
  | some inner => simp [isCollection, toText]
  | none =>
      have bracketless : ¬ ('[' ∈ (toText ⟨segments, none⟩).toList
          ∨ ']' ∈ (toText ⟨segments, none⟩).toList) :=
        not_or.mpr ⟨writable.bare, writable.closed rfl⟩
      simpa [isCollection] using bracketless

/-- A text that ends in a bracket is a path exactly if the names before the bracket are words and
something is in the bracket. -/
theorem parse_bracketed {dotted element : String} {path : Path} (bare : '[' ∉ dotted.toList)
    : parse (dotted ++ "[" ++ element ++ "]") = .ok path
      ↔ "" ∉ names dotted ∧ element ≠ "" ∧ ⟨names dotted, some element⟩ = path := by
  have spelled : (dotted ++ "[" ++ element ++ "]").toList
      = dotted.toList ++ '[' :: (element.toList ++ [']']) := by
    simp
  have blank : "" ∈ names dotted ↔ [] ∈ splitAtDots dotted.toList := by
    simp [names]
  rw [parse_eq_ok_iff_split, spelled, splitBracket_append bare, blank]
  by_cases filled : element = ""
  · simp [filled]
  · simp [filled, names]

end TypedQuery.Path
