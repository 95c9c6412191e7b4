import TypedQuery.Proofs.Accessor.Resolution
import TypedQuery.Proofs.Clause.Leaf
import TypedQuery.Proofs.Text.Pattern

/-! Clauses with a pattern. Any text is a pattern, so such a clause compiles wherever a text is read, and
keeps the items whose text the pattern matches as a whole. What reads null has no text to match.
-/

namespace TypedQuery

/-- A text that is read is matched as a whole, and only a text is. -/
theorem ReadValue.like_test_iff {α : Type} (value : ReadValue α) (pattern : String) (item : α)
    : (value.like pattern).test item = true
      ↔ ∃ content, value.read item = .text content
          ∧ Text.Matches pattern.toList content.toList := by
  cases reading : value.read item with
  | text content => simp [ReadValue.like, reading, Value.text?, Text.matchesPattern_iff]
  | number | instant | date | variant | flag | uuid | null =>
      simp [ReadValue.like, reading, Value.text?]

namespace Clause

/-- A clause with a pattern compiles wherever a text is read. It keeps the items whose text the pattern
matches from its first to its last character, and none that reads null. -/
theorem compile_like (schema : Schema) (owner : schema.Ty) (path : String)
    (accessor : Accessor schema owner)
    (resolved : Accessor.resolve schema owner path = .ok accessor)
    (reads : accessor.kind? = some .text) (pattern : String)
    : ∃ predicate,
        Clause.compile schema owner ⟨path, .like, [some pattern], false⟩ = .ok predicate
        ∧ predicate.filter = .like path pattern
        ∧ ∀ item,
            (predicate.test item = true
              ↔ ∃ content, accessor.read? item = some (.text content)
                  ∧ Text.Matches pattern.toList content.toList)
            ∧ (accessor.read? item = some .null → predicate.test item = false) := by
  obtain ⟨target, leads, rfl⟩ := Accessor.resolve_eq_ok.mp resolved
  cases target with
  | elements => cases reads
  | value kind nullable read =>
      obtain rfl : kind = .text := Option.some.inj reads
      let value : ReadValue (schema.Item owner) := ⟨path, .text, nullable, read⟩
      have compiled
          : Clause.compile schema owner ⟨path, .like, [some pattern], false⟩
            = .ok (value.like pattern) :=
        (compile_of_value leads).mpr ⟨rfl, .like⟩
      refine ⟨_, compiled, rfl, fun item => ⟨?_, fun null => ?_⟩⟩
      · rw [value.like_test_iff pattern item]
        simp [Accessor.read?, value]
      · have empty : value.read item = .null := Option.some.inj null
        rw [← Bool.not_eq_true, value.like_test_iff pattern item, empty]
        simp

/-- An order that came with some pieces of an article, not counted yet. -/
def orderWithGift (article : String) : Shop.Order :=
  { Shop.order with gift := some ⟨article, none⟩ }

/-- Gifts sold off by some percentage over two lines of text. The backslash at the end has nothing to take
literally, so it is one itself. -/
theorem compile_like_giftArticle
    : ∃ accessor,
        Accessor.resolve Shop.schema .order "gift.article" = .ok accessor
        ∧ accessor.kind? = some .text
        ∧ ∃ predicate,
            Clause.compile Shop.schema .order
                ⟨"gift.article", .like, [some "%\\%__\\"], false⟩ = .ok predicate
            ∧ predicate.test (orderWithGift "hook (-5%)\n\\") = true
            ∧ predicate.test (orderWithGift "hook (-5_)\n\\") = false
            ∧ predicate.test Shop.order = false := by
  have parsed : Path.parse "gift.article" = .ok ⟨["gift", "article"], none⟩ := rfl
  have leads : TypedQuery.resolve Shop.schema .order "gift.article" = .ok _ :=
    Follows.resolve_eq_ok parsed (.optionalObject rfl (.value rfl rfl))
  have resolved := Accessor.resolve_eq_ok.mpr ⟨_, leads, rfl⟩
  obtain ⟨predicate, compiled, -, keeps⟩ :=
    compile_like Shop.schema .order "gift.article" _ resolved rfl "%\\%__\\"
  refine ⟨_, resolved, rfl, predicate, compiled, ?_, ?_, (keeps Shop.order).2 rfl⟩
  · exact (keeps (orderWithGift "hook (-5%)\n\\")).1.mpr ⟨_, rfl, by decide +kernel⟩
  · have unmatched : ¬ Text.Matches "%\\%__\\".toList "hook (-5_)\n\\".toList := by decide +kernel
    refine Bool.eq_false_iff.mpr fun kept => unmatched ?_
    obtain ⟨content, read, matched⟩ := (keeps (orderWithGift "hook (-5_)\n\\")).1.mp kept
    cases read
    exact matched

end Clause

end TypedQuery
