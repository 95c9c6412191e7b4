import TypedQuery.Proofs.Text.Cases
import TypedQuery.Text.Identifier

/-! Identifiers in upper and in lower case. The tables of case forms lead from the characters of
identifiers to characters of identifiers, and from those that may start one to forms that may. Where they
lead is compared by code points.
-/

namespace TypedQuery.Text

variable {runs : List CaseRun} {expansions : List (Nat × List Nat)} {starts continues : List CodeRange}
  {character form : Char} {code : Nat}

-----------------------------------------------------------------------------------------
-- Sets that forms stay in
-----------------------------------------------------------------------------------------

/-- The tables lead from the first set to forms that begin in this set and go on in the second. -/
def leadsInto (runs : List CaseRun) (expansions : List (Nat × List Nat)) (starts continues : Nat)
    : Bool :=
  (runs.all fun run => run.sources.all fun code : Nat =>
      !starts.testBit code || starts.testBit (code + run.distance).toNat)
    && expansions.all fun expansion =>
      match expansion.2 with
      | [] => false
      | first :: rest =>
          !starts.testBit expansion.1 || (starts.testBit first && rest.all continues.testBit)

/-- The ranges hold code points of characters only. -/
def holdCharacters (ranges : List CodeRange) : Bool :=
  ranges.all fun range =>
    Nat.blt range.2 0xD800 || (Nat.blt 0xDFFF range.1 && Nat.blt range.2 0x110000)

theorem inRanges_ofNat {ranges : List CodeRange} (characters : holdCharacters ranges = true)
    (listed : (rangeBits ranges).testBit code = true)
    : inRanges ranges (Char.ofNat code) = true := by
  rw [testBit_rangeBits, List.any_eq_true] at listed
  obtain ⟨range, member, within⟩ := listed
  have valid : code.isValidChar := by
    have bounds := List.all_eq_true.mp characters range member
    simp only [CodeRange.contains, Bool.and_eq_true, Nat.ble_eq] at within
    simp only [Bool.or_eq_true, Bool.and_eq_true, Nat.blt_eq] at bounds
    unfold Nat.isValidChar
    omega
  have same : (Char.ofNat code).toNat = code := by
    rw [Char.ofNat, dif_pos valid]
    rfl
  rw [inRanges, same]
  exact List.any_eq_true.mpr ⟨range, member, within⟩

/-- The forms of a character in the first set begin in this set and go on in the second. -/
theorem exists_otherCase (leads : leadsInto runs expansions (rangeBits starts) (rangeBits continues))
    (characters : holdCharacters starts = true ∧ holdCharacters continues = true)
    (within : inRanges starts character = true)
    : ∃ first rest, otherCase runs expansions character = first :: rest
        ∧ inRanges starts first = true ∧ ∀ form ∈ rest, inRanges continues form = true := by
  obtain ⟨ofRuns, ofExpansions⟩ := Bool.and_eq_true_iff.mp leads
  have listed : (rangeBits starts).testBit character.toNat = true := by
    rw [testBit_rangeBits]
    exact within
  unfold otherCase
  dsimp only
  split
  · next expansion found =>
    have leads := List.all_eq_true.mp ofExpansions _ (List.mem_of_find?_eq_some found)
    have source : expansion.1 = character.toNat := by simpa using List.find?_some found
    split at leads
    · cases leads
    · next first rest forms =>
      simp only [source, listed, Bool.not_true, Bool.false_or, Bool.and_eq_true,
        List.all_eq_true] at leads
      refine ⟨Char.ofNat first, rest.map Char.ofNat, by rw [forms, List.map_cons], ?_, ?_⟩
      · exact inRanges_ofNat characters.1 leads.1
      · intro form member
        obtain ⟨code, among, rfl⟩ := List.mem_map.mp member
        exact inRanges_ofNat characters.2 (leads.2 code among)
  · split
    · next run found =>
      have covered : run.covers character.toNat = true := by simpa using List.find?_some found
      have leads := List.all_eq_true.mp (List.all_eq_true.mp ofRuns run
        (List.mem_of_find?_eq_some found)) _ (CaseRun.mem_sources covered)
      simp only [listed, Bool.not_true, Bool.false_or] at leads
      exact ⟨_, [], rfl, inRanges_ofNat characters.1 leads, nofun⟩
    · exact ⟨character, [], rfl, within, nofun⟩

-----------------------------------------------------------------------------------------
-- Characters of identifiers
-----------------------------------------------------------------------------------------

/-- What is checked of tables for them to keep identifiers: they lead from the characters that go on with one
to such characters, from those that start one to forms that do so too, and from the underscore nowhere. -/
def checkTables (runs : List CaseRun) (expansions : List (Nat × List Nat)) : Bool :=
  leadsInto runs expansions (rangeBits identifierContinueRanges) (rangeBits identifierContinueRanges)
    && leadsInto runs expansions (rangeBits identifierStartRanges)
      (rangeBits identifierContinueRanges)
    && otherCase runs expansions '_' == ['_']

/-- The characters of identifiers, and where the tables lead from them, checked at once. -/
theorem tables_checked
    : (holdCharacters identifierStartRanges = true ∧ holdCharacters identifierContinueRanges = true)
      ∧ rangeBits identifierStartRanges &&& rangeBits identifierContinueRanges
        = rangeBits identifierStartRanges
      ∧ checkTables lowerRuns lowerExpansions = true
      ∧ checkTables upperRuns upperExpansions = true := by
  decide +kernel

theorem continuesIdentifier_underscore : continuesIdentifier '_' = true := by
  decide

theorem continuesIdentifier_of_startsIdentifier (begins : startsIdentifier character = true)
    : continuesIdentifier character = true := by
  rcases Bool.or_eq_true_iff.mp begins with underscore | listed
  · rw [beq_iff_eq.mp underscore]
    exact continuesIdentifier_underscore
  · exact inRanges_of_subset tables_checked.2.1 listed

theorem isIdentifier_append {begun others : List Char} (begins : isIdentifier begun = true)
    (goesOn : others.all continuesIdentifier = true)
    : isIdentifier (begun ++ others) = true := by
  cases begun with
  | nil => cases begins
  | cons first rest =>
      obtain ⟨starts, continues⟩ := Bool.and_eq_true_iff.mp begins
      rw [List.cons_append, isIdentifier, starts, List.all_append, continues, goesOn]
      rfl

/-- Tables keep identifiers: the forms of a character go on as identifiers do if the character does, and
are an identifier if it may start one. -/
structure KeepsIdentifiers (forms : Char → List Char) : Prop where
  continues : ∀ {character}, continuesIdentifier character = true →
    (forms character).all continuesIdentifier = true
  identifies : ∀ {character}, startsIdentifier character = true →
    isIdentifier (forms character) = true

theorem keepsIdentifiers_otherCase (checked : checkTables runs expansions = true)
    : KeepsIdentifiers (otherCase runs expansions) := by
  obtain ⟨⟨starts, continues⟩, -⟩ := tables_checked
  simp only [checkTables, Bool.and_eq_true, beq_iff_eq] at checked
  obtain ⟨⟨goesOn, begins⟩, underscore⟩ := checked
  constructor
  · intro character continued
    obtain ⟨first, rest, same, within, others⟩ :=
      exists_otherCase goesOn ⟨continues, continues⟩ continued
    rw [same, List.all_eq_true]
    exact List.forall_mem_cons.mpr ⟨within, others⟩
  · intro character started
    rcases Bool.or_eq_true_iff.mp started with mark | listed
    · rw [beq_iff_eq.mp mark, underscore]
      rfl
    · obtain ⟨first, rest, same, within, others⟩ :=
        exists_otherCase begins ⟨starts, continues⟩ listed
      rw [same, isIdentifier, startsIdentifier, within, Bool.or_true, Bool.true_and,
        List.all_eq_true]
      exact others

theorem keepsIdentifiers_lowerCase : KeepsIdentifiers lowerCase :=
  keepsIdentifiers_otherCase tables_checked.2.2.1

theorem keepsIdentifiers_upperCase : KeepsIdentifiers upperCase :=
  keepsIdentifiers_otherCase tables_checked.2.2.2

end TypedQuery.Text
