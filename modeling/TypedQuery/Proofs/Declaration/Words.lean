import Mathlib.Data.List.Basic
import TypedQuery.Declaration.Naming
import TypedQuery.Proofs.Text.Identifiers

/-! Words of names, and what rules make of them. A word holds no underscore, and of its characters only
the first may be in upper case. Putting it in lower case does not change that, so the rules put
separators into a name where they join words, and nowhere else. And what is an identifier after the
underscores at its start is one under every rule.
-/

namespace TypedQuery.Declaration

open Text

variable {character form : Char} {name word : List Char}

-----------------------------------------------------------------------------------------
-- Words
-----------------------------------------------------------------------------------------

/-- The character stands between words, in a name or in its constant. -/
def IsSeparator (character : Char) : Prop :=
  character = '_' ∨ character = '-'

instance : Decidable (IsSeparator character) :=
  inferInstanceAs (Decidable (_ ∨ _))

theorem not_isSeparator_of_isUppercase (upper : isUppercase character = true)
    : ¬ IsSeparator character := by
  rintro (rfl | rfl) <;>
    rw [(caseForms_of_toNat_lt (by decide)).2.2] at upper <;>
    cases upper

/-- None of the characters separates words. -/
def IsJoined (name : List Char) : Prop :=
  ∀ character ∈ name, ¬ IsSeparator character

/-- Upper case starts a word, so only the first character may be in upper case. -/
def IsWord (word : List Char) : Prop :=
  ∀ character ∈ word.tail, isUppercase character = false

theorem IsWord.append_singleton (isWord : IsWord word)
    (plain : (isUppercase character && !word.isEmpty) = false)
    : IsWord (word ++ [character]) := by
  cases word with
  | nil => simp [IsWord]
  | cons first rest =>
      intro other member
      rcases List.mem_append.mp member with within | last
      · exact isWord other within
      · obtain rfl := List.mem_singleton.mp last
        simpa using plain

/-- By induction on the rest of the name, where the word that is being read is one so far. -/
theorem isWord_of_mem_wordsFrom {begun : List Char} (isWord : IsWord begun)
    (member : word ∈ wordsFrom begun name)
    : IsWord word := by
  have empty : IsWord [] := by simp [IsWord]
  induction name generalizing begun with
  | nil =>
      rw [wordsFrom] at member
      split at member
      · cases member
      · obtain rfl := List.mem_singleton.mp member
        exact isWord
  | cons character rest ih =>
      rw [wordsFrom] at member
      split at member
      · split at member
        · exact ih empty member
        · rcases List.mem_cons.mp member with rfl | later
          · exact isWord
          · exact ih empty later
      · split at member
        · rcases List.mem_cons.mp member with rfl | later
          · exact isWord
          · exact ih (by simp [IsWord]) later
        · next plain => exact ih (isWord.append_singleton (Bool.eq_false_iff.mpr plain)) member

theorem isWord_of_mem_words (member : word ∈ words name) : IsWord word :=
  isWord_of_mem_wordsFrom (by simp [IsWord]) member

/-- Words make up the name without its underscores, by induction on the rest of the name. -/
theorem flatten_wordsFrom (begun name : List Char)
    : (wordsFrom begun name).flatten = begun ++ name.filter (· ≠ '_') := by
  induction name generalizing begun with
  | nil => by_cases empty : begun = [] <;> simp [wordsFrom, empty]
  | cons character rest ih =>
      rw [wordsFrom]
      split
      · next underscore =>
        by_cases empty : begun = [] <;> simp [empty, underscore, ih]
      · next other =>
        split <;> simp [ih, other]

theorem withoutRawMark_suffix (name : List Char) : withoutRawMark name <:+ name := by
  unfold withoutRawMark
  split
  · exact ⟨['r', '#'], rfl⟩
  · exact List.suffix_rfl

theorem withoutRawMarks_suffix (name : List Char) : withoutRawMarks name <:+ name := by
  fun_induction withoutRawMarks name with
  | case1 name ih => exact ih.trans ⟨['r', '#'], rfl⟩
  | case2 name => exact List.suffix_rfl

theorem mem_of_mem_words (member : word ∈ words name) (among : character ∈ word)
    : character ∈ name ∧ character ≠ '_' := by
  have kept : character ∈ (words name).flatten := List.mem_flatten.mpr ⟨word, member, among⟩
  rw [words, flatten_wordsFrom, List.nil_append, List.mem_filter] at kept
  exact ⟨(withoutRawMarks_suffix name).subset kept.1, of_decide_eq_true kept.2⟩

theorem isJoined_of_mem_words (unhyphenated : '-' ∉ name) (member : word ∈ words name)
    : IsJoined word := by
  intro character among separator
  obtain ⟨named, notUnderscore⟩ := mem_of_mem_words member among
  rcases separator with underscore | hyphen
  · exact notUnderscore underscore
  · exact unhyphenated (hyphen ▸ named)

-----------------------------------------------------------------------------------------
-- Words under a rule
-----------------------------------------------------------------------------------------

theorem isJoined_lowered (isJoined : IsJoined word) : IsJoined (lowered word) := by
  intro form member separator
  obtain ⟨character, among, formed⟩ := List.mem_flatMap.mp member
  rcases separator with mark | mark
  · exact isJoined character among ((lowerCase_alone formed (.inl mark)).1 ▸ .inl mark)
  · exact isJoined character among ((lowerCase_alone formed (.inr (.inl mark))).1 ▸ .inr mark)

theorem isJoined_capitalized (isJoined : IsJoined word) : IsJoined (capitalized word) := by
  cases word with
  | nil => simp [capitalized, IsJoined]
  | cons first rest =>
      obtain ⟨begins, goesOn⟩ := List.forall_mem_cons.mp isJoined
      intro form member separator
      rcases List.mem_append.mp member with upper | lower
      · exact begins ((upperCase_alone upper separator).1 ▸ separator)
      · exact isJoined_lowered goesOn form lower separator

/-- A character without upper case is still without it in lower case. -/
theorem isUppercase_lowered (plain : ∀ character ∈ word, isUppercase character = false)
    (member : form ∈ lowered word)
    : isUppercase form = false := by
  obtain ⟨character, among, formed⟩ := List.mem_flatMap.mp member
  by_contra upper
  have same := (lowerCase_alone formed (.inr (.inr (by simpa using upper)))).1
  exact upper (same ▸ plain character among)

/-- A first character that stays in upper case has no other form that could follow it. -/
theorem isWord_lowered (isWord : IsWord word) : IsWord (lowered word) := by
  cases word with
  | nil => simp [IsWord, lowered]
  | cons first rest =>
      have others : ∀ form ∈ lowered rest, isUppercase form = false :=
        fun form member => isUppercase_lowered isWord member
      rw [lowered, List.flatMap_cons, ← lowered]
      by_cases upper : ∃ form ∈ lowerCase first, isUppercase form = true
      · obtain ⟨form, member, upper⟩ := upper
        rw [(lowerCase_alone member (.inr (.inr upper))).2]
        exact others
      · push Not at upper
        intro form member
        rcases List.mem_append.mp (List.mem_of_mem_tail member) with first | later
        · exact Bool.eq_false_iff.mpr (upper form first)
        · exact others form later

/-- Rules other than the one that joins words with underscores leave no separator. -/
theorem isJoined_applyToWords {rule : RenameRule} (merges : rule ≠ .snakeCase)
    {words : List (List Char)} (isJoined : ∀ word ∈ words, IsJoined word)
    : IsJoined (rule.applyToWords words) := by
  intro form member
  have ofLowered {parts : List (List Char)} (among : parts ⊆ words)
      (member : form ∈ parts.flatMap lowered) : ¬ IsSeparator form := by
    obtain ⟨word, listed, within⟩ := List.mem_flatMap.mp member
    exact isJoined_lowered (isJoined word (among listed)) form within
  have ofCapitalized {parts : List (List Char)} (among : parts ⊆ words)
      (member : form ∈ parts.flatMap capitalized) : ¬ IsSeparator form := by
    obtain ⟨word, listed, within⟩ := List.mem_flatMap.mp member
    exact isJoined_capitalized (isJoined word (among listed)) form within
  cases rule with
  | snakeCase => exact absurd rfl merges
  | pascalCase => exact ofCapitalized (List.Subset.refl _) member
  | lowercase => exact ofLowered (List.Subset.refl _) member
  | camelCase =>
      cases words with
      | nil => cases member
      | cons first rest =>
          rcases List.mem_append.mp member with begins | later
          · exact isJoined_lowered (isJoined first (by simp)) form begins
          · exact ofCapitalized (List.subset_cons_self _ _) later

-----------------------------------------------------------------------------------------
-- Identifiers under a rule
-----------------------------------------------------------------------------------------

theorem all_lowered (continues : word.all continuesIdentifier = true)
    : (lowered word).all continuesIdentifier = true := by
  rw [lowered, List.all_flatMap, List.all_eq_true]
  intro character among
  exact keepsIdentifiers_lowerCase.continues (List.all_eq_true.mp continues character among)

theorem all_capitalized (continues : word.all continuesIdentifier = true)
    : (capitalized word).all continuesIdentifier = true := by
  cases word with
  | nil => rfl
  | cons first rest =>
      obtain ⟨begins, goesOn⟩ := Bool.and_eq_true_iff.mp continues
      rw [capitalized, List.all_append, keepsIdentifiers_upperCase.continues begins,
        all_lowered goesOn]
      rfl

theorem isIdentifier_lowered (identifies : isIdentifier word = true)
    : isIdentifier (lowered word) = true := by
  cases word with
  | nil => cases identifies
  | cons first rest =>
      obtain ⟨starts, goesOn⟩ := Bool.and_eq_true_iff.mp identifies
      exact isIdentifier_append (keepsIdentifiers_lowerCase.identifies starts) (all_lowered goesOn)

theorem isIdentifier_capitalized (identifies : isIdentifier word = true)
    : isIdentifier (capitalized word) = true := by
  cases word with
  | nil => cases identifies
  | cons first rest =>
      obtain ⟨starts, goesOn⟩ := Bool.and_eq_true_iff.mp identifies
      exact isIdentifier_append (keepsIdentifiers_upperCase.identifies starts) (all_lowered goesOn)

/-- An underscore goes before every word but the first one, by induction on the words. -/
theorem joinedByUnderscore_cons (word : List Char) (rest : List (List Char))
    : joinedByUnderscore (word :: rest) = word ++ rest.flatMap ('_' :: ·) := by
  induction rest generalizing word with
  | nil => simp [joinedByUnderscore]
  | cons next later ih => simp [joinedByUnderscore, ih]

/-- Words of which the first is an identifier, and the others go on as identifiers do, make up an
identifier under every rule. -/
theorem isIdentifier_applyToWords (rule : RenameRule) {rest : List (List Char)}
    (identifies : isIdentifier word = true)
    (goesOn : ∀ other ∈ rest, other.all continuesIdentifier = true)
    : isIdentifier (rule.applyToWords (word :: rest)) = true := by
  have flat {change : List Char → List Char}
      (keeps : ∀ other, other.all continuesIdentifier = true →
        (change other).all continuesIdentifier = true)
      : (rest.flatMap change).all continuesIdentifier = true := by
    rw [List.all_flatMap, List.all_eq_true]
    exact fun other member => keeps other (goesOn other member)
  cases rule with
  | camelCase =>
      exact isIdentifier_append (isIdentifier_lowered identifies) (flat fun _ => all_capitalized)
  | pascalCase =>
      exact isIdentifier_append (isIdentifier_capitalized identifies) (flat fun _ => all_capitalized)
  | lowercase =>
      exact isIdentifier_append (isIdentifier_lowered identifies) (flat fun _ => all_lowered)
  | snakeCase =>
      rw [RenameRule.applyToWords, List.map_cons, joinedByUnderscore_cons, List.flatMap_map]
      refine isIdentifier_append (isIdentifier_lowered identifies) (flat fun other continues => ?_)
      rw [List.all_cons, continuesIdentifier_underscore, all_lowered continues]
      rfl

/-- Underscores before a name begin no word, by induction on the name. -/
theorem wordsFrom_dropWhile (name : List Char)
    : wordsFrom [] (name.dropWhile (· == '_')) = wordsFrom [] name := by
  induction name with
  | nil => rfl
  | cons character rest ih =>
      by_cases underscore : character = '_'
      · simpa [underscore, wordsFrom] using ih
      · simp [underscore]

/-- A word that has begun is the first one, by induction on the rest of the name. -/
theorem exists_wordsFrom_cons (character : Char) (begun name : List Char)
    : ∃ more rest, wordsFrom (character :: begun) name = (character :: more) :: rest := by
  induction name generalizing begun with
  | nil => exact ⟨begun, [], rfl⟩
  | cons next later ih =>
      by_cases ends : next = '_' ∨ isUppercase next = true
      · refine ⟨begun, wordsFrom (if next = '_' then [] else [next]) later, ?_⟩
        rcases ends with underscore | upper
        · simp [wordsFrom, underscore]
        · by_cases underscore : next = '_' <;> simp [wordsFrom, underscore, upper]
      · obtain ⟨more, rest, same⟩ := ih (begun ++ [next])
        refine ⟨more, rest, ?_⟩
        push Not at ends
        simpa [wordsFrom, ends.1, ends.2] using same

/-- The words of an identifier after underscores. -/
theorem exists_words_of_isIdentifier
    (identifies : isIdentifier (name.dropWhile (· == '_')) = true)
    : ∃ first rest, words name = first :: rest ∧ isIdentifier first = true
        ∧ ∀ other ∈ rest, other.all continuesIdentifier = true := by
  have unmarked : withoutRawMarks name = name := by
    fun_cases withoutRawMarks name with
    | case1 rest =>
        have mark : continuesIdentifier '#' = false := by decide +kernel
        simp [isIdentifier, mark] at identifies
    | case2 => rfl
  cases apart : name.dropWhile (· == '_') with
  | nil => simp [apart, isIdentifier] at identifies
  | cons first later =>
      rw [apart] at identifies
      obtain ⟨starts, goesOn⟩ := Bool.and_eq_true_iff.mp identifies
      have letter : first ≠ '_' := by
        have head := List.head?_dropWhile_not (· == '_') name
        simpa [apart] using head
      obtain ⟨more, rest, same⟩ := exists_wordsFrom_cons first [] later
      have found : words name = (first :: more) :: rest := by
        rw [words, unmarked, ← wordsFrom_dropWhile, apart, ← same]
        simp [wordsFrom, letter]
      have kept : more ++ rest.flatten = later.filter (· ≠ '_') := by
        have parts := flatten_wordsFrom [first] later
        rw [same] at parts
        simpa using parts
      have continues : (more ++ rest.flatten).all continuesIdentifier = true := by
        rw [kept, List.all_eq_true]
        intro character member
        exact List.all_eq_true.mp goesOn character (List.mem_of_mem_filter member)
      rw [List.all_append, List.all_flatten] at continues
      obtain ⟨within, others⟩ := Bool.and_eq_true_iff.mp continues
      refine ⟨first :: more, rest, found, ?_, List.all_eq_true.mp others⟩
      exact Bool.and_eq_true_iff.mpr ⟨starts, within⟩

/-- What is an identifier after the underscores at its start is one under every rule. -/
theorem isIdentifier_apply (rule : RenameRule) {name : String}
    (identifies : isIdentifier (name.toList.dropWhile (· == '_')) = true)
    : isIdentifier (rule.apply name).toList = true := by
  obtain ⟨first, rest, same, starts, goesOn⟩ := exists_words_of_isIdentifier identifies
  rw [RenameRule.apply, String.toList_ofList, same]
  exact isIdentifier_applyToWords rule starts goesOn

end TypedQuery.Declaration
