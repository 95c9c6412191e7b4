import TypedQuery.Proofs.Path.Spelling

/-! Paths read by offsets. A bracket is found at an offset in the bytes of a text, and what it holds is cut
out from between two offsets. Wherever such a cut is made it can be made, so paths are read from the same
texts, every path from one text and from each text at most one path.
-/

namespace TypedQuery

-----------------------------------------------------------------------------------------
-- Cuts between two offsets
-----------------------------------------------------------------------------------------

namespace Text

variable {text inside : String} {start stop : Nat}

/-- The part of a text between two offsets, counted in bytes. There is none if the offsets are in the wrong
order, if one of them is past the end, or if one is inside a character. -/
def between? (text : String) (start stop : Nat) : Option String := do
  let first ← text.pos? ⟨start⟩
  let last ← text.pos? ⟨stop⟩
  let slice ← text.slice? first last
  return slice.copy

theorem pos?_eq_some {offset : String.Pos.Raw} {place : text.Pos}
    : text.pos? offset = some place ↔ place.offset = offset := by
  unfold String.pos? String.Slice.pos?
  split
  · simp only [Option.map_some, Option.some.injEq, String.Pos.ext_iff, String.Pos.offset_ofToSlice,
      String.Slice.offset_pos]
    exact eq_comm
  · next invalid =>
    simp only [Option.map_none, reduceCtorEq, false_iff]
    rintro rfl
    exact invalid (by simpa using place.isValid.toSlice)

theorem slice?_eq_some {first last : text.Pos} {slice : String.Slice}
    : text.slice? first last = some slice ↔ ∃ inOrder, text.slice first last inOrder = slice := by
  simp [String.slice?]

/-- What is between two offsets is what is left of a text when a text of the first size is taken off in front,
and all that follows the second offset behind. -/
theorem between?_eq_some
    : between? text start stop = some inside
      ↔ ∃ before after, text = before ++ inside ++ after
          ∧ before.utf8ByteSize = start
          ∧ (before ++ inside).utf8ByteSize = stop := by
  have places
      : between? text start stop = some inside
        ↔ ∃ first last : text.Pos, first.offset = ⟨start⟩ ∧ last.offset = ⟨stop⟩
            ∧ ∃ inOrder, (text.slice first last inOrder).copy = inside := by
    simp only [between?, Option.bind_eq_bind, Option.bind_eq_some_iff, pos?_eq_some, Option.pure_def,
      Option.some.injEq, slice?_eq_some]
    constructor
    · rintro ⟨first, starts, last, stops, _, ⟨inOrder, rfl⟩, same⟩
      exact ⟨first, last, starts, stops, inOrder, same⟩
    · rintro ⟨first, last, starts, stops, inOrder, same⟩
      exact ⟨first, starts, last, stops, _, ⟨inOrder, rfl⟩, same⟩
  rw [places]
  constructor
  · rintro ⟨first, last, starts, stops, same⟩
    obtain ⟨before, after, splits, splitsLater⟩ := String.copy_slice_eq_iff_splits.mp same
    refine ⟨before, after, splitsLater.eq_append, ?_, ?_⟩
    · simpa [String.Pos.Raw.ext_iff] using splits.offset_eq_rawEndPos.symm.trans starts
    · simpa [String.Pos.Raw.ext_iff] using splitsLater.offset_eq_rawEndPos.symm.trans stops
  · rintro ⟨before, after, rfl, rfl, rfl⟩
    have splits := String.Pos.splits_ofEqAppend
      (by rw [String.append_assoc] : before ++ inside ++ after = before ++ (inside ++ after))
    have splitsLater := String.Pos.splits_ofEqAppend (rfl : before ++ inside ++ after = _)
    exact ⟨_, _, splits.offset_eq_rawEndPos, splitsLater.offset_eq_rawEndPos,
      String.copy_slice_eq_iff_splits.mpr ⟨before, after, splits, splitsLater⟩⟩

end Text

-----------------------------------------------------------------------------------------
-- Reading by offsets
-----------------------------------------------------------------------------------------

namespace Path

/-- The part of a text before its bracket, and the text in the bracket if there is one. The bracket is where
the first one opens, and closes with the last byte of the text. There is no answer where a cut between
offsets cannot be made. -/
def cutBracket? (raw : String) : Option (Except PathFlaw (String × Option String)) :=
  match raw.find? '[' with
  | none => some (if raw.contains ']' then .error .unbalancedBracket else .ok (raw, none))
  | some opening =>
      if !raw.endsWith ']' then some (.error .notClosedAtEnd)
      else do
        let inner ← Text.between? raw (opening.offset.byteIdx + 1) (raw.utf8ByteSize - 1)
        if inner.isEmpty then return .error .emptyBracket
        else
          let outer ← Text.between? raw 0 opening.offset.byteIdx
          return .ok (outer, some inner)

/-- The path in a text, read by offsets. -/
def parseByOffsets? (raw : String) : Option (Except PathFlaw Path) :=
  if raw.isEmpty then some (.error .empty)
  else
    (cutBracket? raw).map fun
      | .error flaw => .error flaw
      | .ok (outer, element) =>
          if "" ∈ names outer then .error .emptySegment else .ok ⟨names outer, element⟩

theorem find?_opening_eq_none {raw : String} : raw.find? '[' = none ↔ '[' ∉ raw.toList := by
  rw [String.find?_eq_find?_toSlice, Option.map_eq_none_iff, String.Slice.find?_eq_none_iff,
    ← String.contains_eq_contains_toSlice, String.contains_char_eq, decide_eq_false_iff_not]

/-- The text before a bracket can be cut out. -/
theorem between?_outer {outer inner : String}
    : Text.between? (outer ++ "[" ++ inner ++ "]") 0 outer.utf8ByteSize = some outer :=
  Text.between?_eq_some.mpr ⟨"", "[" ++ inner ++ "]", by simp [String.append_assoc], rfl, by simp⟩

/-- The text in a bracket can be cut out, since both brackets are one byte long. -/
theorem between?_inner {outer inner : String}
    : Text.between? (outer ++ "[" ++ inner ++ "]") (outer.utf8ByteSize + 1)
        ((outer ++ "[" ++ inner ++ "]").utf8ByteSize - 1)
      = some inner := by
  have opening : "[".utf8ByteSize = 1 := rfl
  have closing : "]".utf8ByteSize = 1 := rfl
  refine Text.between?_eq_some.mpr ⟨outer ++ "[", "]", rfl, ?_, ?_⟩
  · rw [String.utf8ByteSize_append, opening]
  · have whole : (outer ++ "[" ++ inner ++ "]").utf8ByteSize = (outer ++ "[" ++ inner).utf8ByteSize + 1 := by
      rw [String.utf8ByteSize_append, closing]
    rw [whole, Nat.add_sub_cancel]

/-- Cutting by offsets is always possible and splits a text at its bracket. -/
theorem cutBracket?_eq (raw : String)
    : cutBracket? raw
      = some
          ((splitBracket raw.toList).map fun (outer, element) =>
            (String.ofList outer, element.map String.ofList)) := by
  unfold cutBracket?
  split
  · next unfound =>
    rw [splitBracket_of_not_mem (find?_opening_eq_none.mp unfound), String.contains_char_eq]
    split <;> simp_all [Except.map]
  · next opening found =>
    obtain ⟨outer, rest, splits, bare⟩ := String.find?_char_eq_some_iff_splits.mp found
    have offset : opening.offset.byteIdx = outer.utf8ByteSize := by
      rw [splits.offset_eq_rawEndPos]
      simp
    obtain rfl : raw = outer ++ "[" ++ rest := by
      rw [splits.eq_append, String.append_assoc]
      rfl
    have spelled : (outer ++ "[" ++ rest).toList = outer.toList ++ '[' :: rest.toList := by simp
    have closing : (outer ++ "[" ++ rest).endsWith ']' = (rest.toList.getLast? == some ']') := by
      rw [String.endsWith_char_eq_getLast?, spelled, List.getLast?_append, List.getLast?_cons]
      cases rest.toList.getLast? <;> simp
    rw [closing, spelled, splitBracket_append bare]
    by_cases closes : rest.toList.getLast? = some ']'
    · obtain ⟨inner, rest_eq⟩ := List.getLast?_eq_some_iff.mp closes
      obtain rfl : rest = String.ofList inner ++ "]" := String.toList_inj.mp (by simp [rest_eq])
      rw [offset, ← String.append_assoc, between?_inner, between?_outer]
      by_cases filled : inner = [] <;> simp [filled, Except.map]
    · simp [closes, Except.map]

theorem parseByOffsets?_eq (raw : String) : parseByOffsets? raw = some (parse raw) := by
  unfold parseByOffsets? parse
  by_cases empty : raw = ""
  · simp [empty]
  · have some_text : raw.isEmpty = false := by simpa using empty
    have some_list : raw.toList.isEmpty = false := by simpa using empty
    rw [cutBracket?_eq, Option.map_some]
    simp only [some_text, some_list, Bool.false_eq_true, if_false]
    cases splitBracket raw.toList with
    | error flaw => rfl
    | ok parts =>
        obtain ⟨outer, element⟩ := parts
        have blank
            : (splitAtDots outer).any List.isEmpty = true ↔ "" ∈ names (String.ofList outer) := by
          simp [names]
        simp only [Except.map, blank]
        split <;> simp [names]

/-- Reading paths is exact and loses nothing. A text is read as names and a bracket exactly if it spells them
out, the names are words without dots and opening brackets, the bracket holds some text, and a text
without a bracket has no closing one either. So a path is read from its own text alone, every path that
can be written is read from some text, and reading by offsets never makes a cut that cannot be made. -/
theorem parse_lossless
    : (∀ raw segments element,
        parse raw = .ok ⟨segments, element⟩
        ↔ segments ≠ []
          ∧ (∀ name ∈ segments, name ≠ "" ∧ '.' ∉ name.toList ∧ '[' ∉ name.toList)
          ∧ element ≠ some ""
          ∧ (element = none → ']' ∉ raw.toList)
          ∧ raw = toText ⟨segments, element⟩)
      ∧ (∀ raw other path, parse raw = .ok path → parse other = .ok path → raw = other)
      ∧ (∀ path : Path, path.IsWritable → parse path.toText = .ok path)
      ∧ ∀ raw, parseByOffsets? raw = some (parse raw) := by
  refine ⟨fun raw segments element => ?_, fun raw other path parsed again => ?_,
    fun path => parse_toText, parseByOffsets?_eq⟩
  · rw [parse_eq_ok]
    constructor
    · rintro ⟨writable, rfl⟩
      refine ⟨writable.named, writable.words, writable.filled, ?_, rfl⟩
      rintro rfl
      exact writable.closed rfl
    · rintro ⟨named, words, filled, closed, rfl⟩
      refine ⟨⟨named, words, filled, ?_⟩, rfl⟩
      rintro rfl name member closes
      rw [← names_intercalate named fun name among => (words name among).2.1] at member
      obtain ⟨piece, among, rfl⟩ := List.mem_map.mp member
      exact closed rfl ((mem_splitAtDots among).2 (by simpa using closes))
  · exact (isWritable_of_parse parsed).2.symm.trans (isWritable_of_parse again).2

/-- Brackets are cut out between letters of two bytes each, and a bracket within one stays in it. -/
theorem parse_lossless_umlauts
    : parse "größen[länge[ß]]" = .ok ⟨["größen"], some "länge[ß]"⟩
      ∧ parseByOffsets? "größen[länge[ß]]" = some (.ok ⟨["größen"], some "länge[ß]"⟩)
      ∧ parse "größen]" ≠ .ok ⟨["größen]"], none⟩ := by
  obtain ⟨spells, -, -, byOffsets⟩ := parse_lossless
  have parsed : parse "größen[länge[ß]]" = .ok ⟨["größen"], some "länge[ß]"⟩ :=
    (spells _ _ _).mpr (by decide +kernel)
  refine ⟨parsed, (byOffsets _).trans (congrArg some parsed), fun parsed => ?_⟩
  obtain ⟨-, -, -, closed, -⟩ := (spells _ _ _).mp parsed
  exact closed rfl (by decide)

end Path

end TypedQuery
