import TypedQuery.Path

/-! The names in a dotted text. Joining the names of a path with dots and splitting the result at
its dots gives the names back, so the text of a collection's path still says which names lead there.
-/

namespace TypedQuery

namespace Path

/-- The names between the dots of a text. -/
def names (dotted : String) : List String :=
  (splitAtDots dotted.toList).map String.ofList

/-- Splitting at dots is the library's splitting of a list, by induction on the text. -/
theorem splitAtDots_eq_splitOn (text : List Char) : splitAtDots text = text.splitOn '.' := by
  induction text with
  | nil => rfl
  | cons character rest ih =>
      rw [splitAtDots, List.splitOn_cons_eq_if_modifyHead, ih]
      by_cases dot : character = '.'
      · simp [dot]
      · have pieces : rest.splitOn '.' ≠ [] := List.splitOn_ne_nil '.' rest
        cases split_eq : rest.splitOn '.' with
        | nil => exact absurd split_eq pieces
        | cons head tail => simp [dot]

/-- A path that is read from a text has the names between the dots of some part of that text. -/
theorem segments_of_parse {raw : String} {path : Path} (parsed : parse raw = .ok path)
    : ∃ outer : List Char, path.segments = (splitAtDots outer).map String.ofList := by
  unfold parse at parsed
  split at parsed
  · cases parsed
  · split at parsed
    · cases parsed
    · next outer element _ =>
      dsimp only at parsed
      split at parsed
      · cases parsed
      · cases parsed
        exact ⟨outer, rfl⟩

/-- The names of a path, joined with dots, are still the names in the joined text. -/
theorem names_intercalate_segments {raw : String} {path : Path} (parsed : parse raw = .ok path)
    : names (String.intercalate "." path.segments) = path.segments := by
  obtain ⟨outer, segments⟩ := segments_of_parse parsed
  have joined : (String.intercalate "." path.segments).toList = outer := by
    rw [String.toList_intercalate, segments, List.map_map, splitAtDots_eq_splitOn]
    simp [Function.comp_def, List.intercalate_splitOn]
  rw [names, joined, segments]

end Path

end TypedQuery
