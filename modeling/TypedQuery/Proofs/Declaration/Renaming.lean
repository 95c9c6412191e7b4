import Mathlib
import TypedQuery.Proofs.Declaration.Words
import TypedQuery.Text.Letters

/-! Names under a rule, and under a rule again. Of a name made of the letters a to z, digits and underscores
a rule keeps its words, in lower case, and sets its own marks where these begin. Some words cannot be told
apart any more then, those that start with a digit among them, but where they were merged nothing is
written that the rule would not write again. So a name that a rule has made stays as it is under the rule,
and the rule that sets words apart with underscores can go before any other.
-/

namespace TypedQuery.Declaration

open Text

variable {character : Char} {word text : List Char} {parts : List (List Char)}

-----------------------------------------------------------------------------------------
-- Letters a to z and digits
-----------------------------------------------------------------------------------------

theorem toNat_lt_of_isAlphanum (plain : character.isAlphanum = true) : character.toNat < 128 := by
  simp only [Char.isAlphanum, Char.isAlpha, Char.isDigit, Char.isUpper, Char.isLower,
    UInt32.le_iff_toNat_le, Bool.or_eq_true, Bool.and_eq_true, decide_eq_true_eq] at plain
  grind [Char.toNat]

theorem isAlphanum_toLower (plain : character.isAlphanum = true)
    : character.toLower.isAlphanum = true := by
  rcases Bool.or_eq_true_iff.mp plain with letter | digit
  · simp [Char.isAlphanum, letter]
  · by_cases upper : character.isUpper = true
    · simp [Char.isAlphanum, Char.isAlpha, upper]
    · rwa [Char.toLower_eq_of_not_isUpper upper]

theorem isAlphanum_toUpper (plain : character.isAlphanum = true)
    : character.toUpper.isAlphanum = true := by
  rcases Bool.or_eq_true_iff.mp plain with letter | digit
  · simp [Char.isAlphanum, letter]
  · by_cases lower : character.isLower = true
    · simp [Char.isAlphanum, Char.isAlpha, lower]
    · rwa [Char.toUpper_eq_of_not_isLower lower]

/-- All characters are letters a to z, in upper or lower case, or digits. -/
def IsAlphanumeric (text : List Char) : Prop :=
  ∀ character ∈ text, character.isAlphanum = true

theorem lowered_eq (plain : IsAlphanumeric word) : lowered word = lowerLetters word := by
  rw [lowered, lowerLetters, List.map_eq_flatMap, List.flatMap_def, List.flatMap_def]
  congr 1
  refine List.map_congr_left fun character member => ?_
  exact (caseForms_of_toNat_lt (toNat_lt_of_isAlphanum (plain character member))).1

theorem capitalized_cons_eq (plain : IsAlphanumeric (character :: word))
    : capitalized (character :: word) = character.toUpper :: lowerLetters word := by
  obtain ⟨first, rest⟩ := List.forall_mem_cons.mp plain
  rw [capitalized, (caseForms_of_toNat_lt (toNat_lt_of_isAlphanum first)).2.1, lowered_eq rest]
  rfl

theorem isUppercase_eq (plain : character.isAlphanum = true)
    : isUppercase character = character.isUpper :=
  (caseForms_of_toNat_lt (toNat_lt_of_isAlphanum plain)).2.2

namespace IsAlphanumeric

theorem lowered (plain : IsAlphanumeric word) : IsAlphanumeric (lowered word) := by
  rw [lowered_eq plain]
  intro form member
  obtain ⟨character, among, rfl⟩ := List.mem_map.mp member
  exact isAlphanum_toLower (plain character among)

theorem capitalized (plain : IsAlphanumeric word) : IsAlphanumeric (capitalized word) := by
  cases word with
  | nil => exact plain
  | cons first rest =>
      obtain ⟨begins, goesOn⟩ := List.forall_mem_cons.mp plain
      rw [capitalized_cons_eq plain, ← lowered_eq goesOn]
      exact List.forall_mem_cons.mpr ⟨isAlphanum_toUpper begins, lowered goesOn⟩

end IsAlphanumeric

theorem toLower_eq_self_iff (plain : character.isAlphanum = true)
    : character.toLower = character ↔ isUppercase character = false := by
  rw [isUppercase_eq plain]
  constructor
  · intro same
    rw [← same, Char.isUpper_toLower_eq_false]
  · intro lower
    exact Char.toLower_eq_of_not_isUpper (Bool.eq_false_iff.mp lower)

/-- What stays as it is in lower case has no character in upper case, by induction on the characters. -/
theorem lowerLetters_eq_self_iff (plain : IsAlphanumeric word)
    : lowerLetters word = word ↔ ∀ character ∈ word, isUppercase character = false := by
  induction word with
  | nil => simp [lowerLetters]
  | cons first rest ih =>
      obtain ⟨begins, goesOn⟩ := List.forall_mem_cons.mp plain
      rw [List.forall_mem_cons, ← toLower_eq_self_iff begins, ← ih goesOn, lowerLetters,
        List.map_cons, List.cons.injEq]
      rfl

/-- A word that is made of letters and digits. -/
structure IsPlainWord (word : List Char) : Prop where
  filled : word ≠ []
  letters : IsAlphanumeric word

theorem flatMap_lowered (parts : List (List Char))
    : parts.flatMap lowered = lowered parts.flatten := by
  rw [lowered, ← List.flatMap_id, List.flatMap_assoc]
  rfl

/-- In lower case a word is as it was in lower case before. -/
theorem lowered_lowered (plain : IsAlphanumeric word) : lowered (lowered word) = lowered word := by
  rw [lowered_eq plain.lowered, lowered_eq plain]
  simp [lowerLetters]

theorem lowerLetters_lowered (plain : IsAlphanumeric word)
    : lowerLetters (lowered word) = lowered word := by
  rw [← lowered_eq plain.lowered, lowered_lowered plain]

theorem isPlainWord_map_lowered (plain : ∀ word ∈ parts, IsPlainWord word)
    : (∀ word ∈ parts.map lowered, IsPlainWord word)
      ∧ ∀ word ∈ parts.map lowered, lowerLetters word = word := by
  rw [List.forall_mem_map, List.forall_mem_map]
  refine ⟨fun word listed => ?_, fun word listed => lowerLetters_lowered (plain word listed).letters⟩
  obtain ⟨filled, letters⟩ := plain word listed
  refine ⟨?_, letters.lowered⟩
  rw [lowered_eq letters, lowerLetters, ne_eq, List.map_eq_nil_iff]
  exact filled

/-- The first character of a word can be put in upper case after all of them were in lower case. -/
theorem capitalized_lowered (plain : IsAlphanumeric word)
    : capitalized (lowered word) = capitalized word := by
  cases word with
  | nil => rfl
  | cons first rest =>
      have lower : lowered (first :: rest) = first.toLower :: lowerLetters rest := lowered_eq plain
      have still : IsAlphanumeric (first.toLower :: lowerLetters rest) := lower ▸ plain.lowered
      rw [lower, capitalized_cons_eq still, capitalized_cons_eq plain]
      simp [lowerLetters]

/-- A word with its first character in upper case, and no other one, is as the rules write it. -/
theorem capitalized_eq_self (plain : IsAlphanumeric (character :: word))
    (isWord : IsWord (character :: word)) (upper : isUppercase character = true)
    : capitalized (character :: word) = character :: word := by
  obtain ⟨first, rest⟩ := List.forall_mem_cons.mp plain
  rw [isUppercase_eq first] at upper
  rw [capitalized_cons_eq plain, (lowerLetters_eq_self_iff rest).mpr isWord,
    Char.toUpper_eq_of_not_isLower (Char.not_isLower_of_isUpper upper)]

-----------------------------------------------------------------------------------------
-- Words read back
-----------------------------------------------------------------------------------------

/-- Words are not empty, by induction on the rest of the name. -/
theorem ne_nil_of_mem_wordsFrom {begun name : List Char} (member : word ∈ wordsFrom begun name)
    : word ≠ [] := by
  induction name generalizing begun with
  | nil => by_cases empty : begun = [] <;> simp_all [wordsFrom]
  | cons character rest ih =>
      have begins (filled : begun ≠ []) {later : List (List Char)}
          (among : word ∈ begun :: later) (others : word ∈ later → word ≠ []) : word ≠ [] := by
        rcases List.mem_cons.mp among with rfl | after
        · exact filled
        · exact others after
      rw [wordsFrom] at member
      split at member
      · split at member
        · exact ih member
        · next filled => exact begins (by simpa using filled) member ih
      · split at member
        · next ends => exact begins (by simp_all) member ih
        · exact ih member

/-- Marks of raw identifiers are looked for only where there are some. -/
theorem withoutRawMarks_eq_self {name : List Char} (unmarked : '#' ∉ name)
    : withoutRawMarks name = name := by
  fun_cases withoutRawMarks name with
  | case1 rest => simp at unmarked
  | case2 => rfl

theorem words_withoutRawMark (name : List Char) : words (withoutRawMark name) = words name := by
  unfold withoutRawMark
  split
  · rfl
  · rfl

/-- Characters that neither stand between words nor begin one go on with the word that is being read, by
induction on them. -/
theorem wordsFrom_append {letters : List Char}
    (goesOn : ∀ character ∈ letters, character ≠ '_' ∧ isUppercase character = false)
    (begun rest : List Char)
    : wordsFrom begun (letters ++ rest) = wordsFrom (begun ++ letters) rest := by
  induction letters generalizing begun with
  | nil => simp
  | cons character others ih =>
      obtain ⟨⟨letter, lower⟩, goesOn⟩ := List.forall_mem_cons.mp goesOn
      simp [wordsFrom, letter, lower, ih goesOn]

/-- Where no underscore is, every word but the first begins in upper case. By induction on the rest of the
name. -/
theorem isUppercase_of_mem_tail_wordsFrom {begun name : List Char} (whole : '_' ∉ name)
    (member : word ∈ (wordsFrom begun name).tail)
    : ∃ first rest, word = first :: rest ∧ isUppercase first = true := by
  induction name generalizing begun with
  | nil => by_cases empty : begun = [] <;> simp [wordsFrom, empty] at member
  | cons character rest ih =>
      obtain ⟨letter, whole⟩ := List.ne_and_not_mem_of_not_mem_cons whole
      rw [wordsFrom, if_neg (Ne.symm letter)] at member
      split at member
      · next begins =>
        obtain ⟨more, others, same⟩ := exists_wordsFrom_cons character [] rest
        rw [List.tail_cons, same] at member
        rcases List.mem_cons.mp member with first | later
        · exact ⟨character, more, first, (Bool.and_eq_true_iff.mp begins).1⟩
        · exact ih whole (by rw [same]; exact later)
      · exact ih whole member

/-- The words of letters and digits: the first one begins as the text does and goes on in lower case, and
all others begin in upper case, as the rules write words after the first. -/
theorem exists_words_of_isAlphanumeric (plain : IsAlphanumeric (character :: text))
    : ∃ more rest, words (character :: text) = (character :: more) :: rest
        ∧ IsAlphanumeric (character :: more)
        ∧ lowerLetters more = more
        ∧ rest.flatMap capitalized = rest.flatten
        ∧ (character :: more) ++ rest.flatten = character :: text := by
  have bare (mark : Char) (other : mark.isAlphanum = false) : mark ∉ character :: text :=
    fun member => by simp [plain mark member] at other
  have whole : '_' ∉ character :: text := bare '_' rfl
  have letter : character ≠ '_' := fun same => whole (same ▸ List.mem_cons_self)
  have unmarked : words (character :: text) = wordsFrom [] (character :: text) := by
    rw [words, withoutRawMarks_eq_self (bare '#' rfl)]
  obtain ⟨more, rest, same⟩ := exists_wordsFrom_cons character [] text
  have found : words (character :: text) = (character :: more) :: rest := by
    rw [unmarked, ← same]
    simp [wordsFrom, letter]
  have joined : ((character :: more) :: rest).flatten = character :: text := by
    rw [← found, unmarked, flatten_wordsFrom, List.nil_append, List.filter_eq_self]
    intro other member
    exact decide_eq_true fun underscore => whole (underscore ▸ member)
  have within {word : List Char} (listed : word ∈ (character :: more) :: rest)
      : IsAlphanumeric word := by
    intro other among
    exact plain other (joined ▸ List.mem_flatten.mpr ⟨word, listed, among⟩)
  have isWord {word : List Char} (listed : word ∈ (character :: more) :: rest) : IsWord word :=
    isWord_of_mem_words (found ▸ listed)
  refine ⟨more, rest, found, within List.mem_cons_self, ?_, ?_, joined⟩
  · have goesOn := (List.forall_mem_cons.mp (within List.mem_cons_self)).2
    exact (lowerLetters_eq_self_iff goesOn).mpr (isWord List.mem_cons_self)
  · rw [List.flatMap_def, (List.map_congr_left fun word listed => ?_ :
      rest.map capitalized = rest.map id), List.map_id]
    have later : word ∈ (wordsFrom [] (character :: text)).tail := by
      rw [← unmarked, found]
      exact listed
    obtain ⟨first, others, rfl, upper⟩ := isUppercase_of_mem_tail_wordsFrom whole later
    have listed := List.mem_cons_of_mem (character :: more) listed
    exact capitalized_eq_self (within listed) (isWord listed) upper

/-- Words in lower case that underscores join are read back, by induction on the words. -/
theorem wordsFrom_joinedByUnderscore
    (lower
      : ∀ word ∈ parts, word ≠ []
          ∧ ∀ character ∈ word, character ≠ '_' ∧ isUppercase character = false)
    : wordsFrom [] (joinedByUnderscore parts) = parts := by
  induction parts with
  | nil => rfl
  | cons word rest ih =>
      obtain ⟨⟨filled, goesOn⟩, others⟩ := List.forall_mem_cons.mp lower
      cases rest with
      | nil =>
          have alone := wordsFrom_append goesOn [] []
          rw [List.append_nil] at alone
          rw [joinedByUnderscore, alone]
          simp [wordsFrom, filled]
      | cons next later =>
          rw [joinedByUnderscore, wordsFrom_append goesOn, List.nil_append, wordsFrom, ih others]
          · simp [filled]
          · simp

/-- A name made of words of letters and digits in lower case, with underscores between them, has these
words. -/
theorem words_joinedByUnderscore (plain : ∀ word ∈ parts, IsPlainWord word)
    (lower : ∀ word ∈ parts, lowerLetters word = word)
    : words (joinedByUnderscore parts) = parts := by
  have bare {mark : Char} (other : mark.isAlphanum = false) {word : List Char}
      (listed : word ∈ parts) : mark ∉ word :=
    fun member => by simp [(plain word listed).letters mark member] at other
  have unmarked : '#' ∉ joinedByUnderscore parts := by
    cases parts with
    | nil => simp [joinedByUnderscore]
    | cons word rest =>
        rw [joinedByUnderscore_cons, List.mem_append, List.mem_flatMap]
        rintro (first | ⟨other, later, within⟩)
        · exact bare rfl List.mem_cons_self first
        · exact bare rfl (List.mem_cons_of_mem word later) (by simpa using within)
  rw [words, withoutRawMarks_eq_self unmarked]
  refine wordsFrom_joinedByUnderscore fun word listed => ⟨(plain word listed).filled, ?_⟩
  intro character member
  refine ⟨fun underscore => bare rfl listed (underscore ▸ member), ?_⟩
  exact (lowerLetters_eq_self_iff (plain word listed).letters).mp (lower word listed) character member

-----------------------------------------------------------------------------------------
-- Names that a rule makes
-----------------------------------------------------------------------------------------

/-- The name has letters a to z, digits and underscores only, maybe after the mark of a raw identifier. -/
def IsPlainName (name : String) : Prop :=
  ∀ character ∈ withoutRawMark name.toList, character.isAlphanum = true ∨ character = '_'

instance (name : String) : Decidable (IsPlainName name) :=
  List.decidableBAll _ _

theorem IsPlainName.isPlainWord {name : String} (isPlain : IsPlainName name)
    (member : word ∈ words name.toList)
    : IsPlainWord word := by
  refine ⟨ne_nil_of_mem_wordsFrom member, fun character among => ?_⟩
  rw [← words_withoutRawMark] at member
  obtain ⟨named, letter⟩ := mem_of_mem_words member among
  exact (isPlain character named).resolve_right letter

namespace RenameRule

/-- The texts that a rule makes of words of letters and digits. -/
inductive Makes : RenameRule → List Char → Prop
  | camelCase {name} (plain : IsAlphanumeric name)
    (begins : ∀ first ∈ name.head?, first.toLower = first)
    : Makes .camelCase name
  | pascalCase {name} (plain : IsAlphanumeric name)
    (begins : ∀ first ∈ name.head?, first.toUpper = first)
    : Makes .pascalCase name
  | snakeCase {words} (plain : ∀ word ∈ words, IsPlainWord word)
    (lower : ∀ word ∈ words, lowerLetters word = word)
    : Makes .snakeCase (joinedByUnderscore words)
  | lowercase {name} (plain : IsAlphanumeric name) (lower : lowerLetters name = name)
    : Makes .lowercase name

theorem isAlphanumeric_flatMap {change : List Char → List Char}
    (keeps : ∀ word, IsAlphanumeric word → IsAlphanumeric (change word))
    (plain : ∀ word ∈ parts, IsAlphanumeric word)
    : IsAlphanumeric (parts.flatMap change) := by
  intro character member
  obtain ⟨word, listed, within⟩ := List.mem_flatMap.mp member
  exact keeps word (plain word listed) character within

/-- A rule makes one of its texts of all words of letters and digits. -/
theorem makes_applyToWords (rule : RenameRule)
    (plain : ∀ word ∈ parts, IsPlainWord word)
    : rule.Makes (rule.applyToWords parts) := by
  have letters : ∀ word ∈ parts, IsAlphanumeric word := fun word listed => (plain word listed).letters
  cases rule with
  | pascalCase =>
      refine .pascalCase (isAlphanumeric_flatMap (fun _ => IsAlphanumeric.capitalized) letters) ?_
      rcases parts with _ | ⟨_ | ⟨first, more⟩, rest⟩
      · simp [applyToWords]
      · exact absurd rfl (plain [] List.mem_cons_self).filled
      · rw [applyToWords, List.flatMap_cons, capitalized_cons_eq (letters _ List.mem_cons_self)]
        simp
  | camelCase =>
      rcases parts with _ | ⟨_ | ⟨first, more⟩, rest⟩
      · exact .camelCase (by simp [applyToWords, IsAlphanumeric]) (by simp [applyToWords])
      · exact absurd rfl (plain [] List.mem_cons_self).filled
      · obtain ⟨begins, goesOn⟩ := List.forall_mem_cons.mp letters
        refine .camelCase ?_ ?_
        · intro character member
          rcases List.mem_append.mp member with among | later
          · exact begins.lowered character among
          · exact isAlphanumeric_flatMap (fun _ => IsAlphanumeric.capitalized) goesOn character later
        · rw [applyToWords, lowered_eq begins]
          simp [lowerLetters]
  | snakeCase =>
      obtain ⟨still, lower⟩ := isPlainWord_map_lowered plain
      exact .snakeCase still lower
  | lowercase =>
      have flat : IsAlphanumeric parts.flatten := by
        simpa using isAlphanumeric_flatMap (fun _ => id) letters
      rw [applyToWords, flatMap_lowered]
      exact .lowercase flat.lowered (lowerLetters_lowered flat)

/-- What a rule has made it makes again of its words, although these need not be those it was made of. -/
theorem Makes.applyToWords_eq {rule : RenameRule} (made : rule.Makes text)
    : rule.applyToWords (words text) = text := by
  cases made with
  | camelCase plain begins =>
      rcases text with _ | ⟨first, rest⟩
      · rfl
      · obtain ⟨more, others, found, within, lower, capitals, joined⟩ :=
          exists_words_of_isAlphanumeric plain
        have starts : first.toLower = first := begins first rfl
        have same : lowered (first :: more) = first :: more := by
          rw [lowered_eq within, lowerLetters, List.map_cons, starts]
          exact congrArg (first :: ·) lower
        rw [found, applyToWords, same, capitals, joined]
  | pascalCase plain begins =>
      rcases text with _ | ⟨first, rest⟩
      · rfl
      · obtain ⟨more, others, found, within, lower, capitals, joined⟩ :=
          exists_words_of_isAlphanumeric plain
        have starts : first.toUpper = first := begins first rfl
        have same : capitalized (first :: more) = first :: more := by
          rw [capitalized_cons_eq within, lower, starts]
        rw [found, applyToWords, List.flatMap_cons, same, capitals, joined]
  | snakeCase plain lower =>
      next parts =>
      have same : parts.map lowered = parts := by
        refine (List.map_congr_left fun word listed => ?_).trans parts.map_id
        rw [lowered_eq (plain word listed).letters, lower word listed, id]
      rw [words_joinedByUnderscore plain lower, applyToWords, same]
  | lowercase plain lower =>
      rw [applyToWords, flatMap_lowered]
      rcases text with _ | ⟨first, rest⟩
      · rfl
      · obtain ⟨more, others, found, -, -, -, joined⟩ := exists_words_of_isAlphanumeric plain
        rw [found, List.flatten_cons, joined, lowered_eq plain, lower]

/-- A rule makes the same of words as of the words in lower case. -/
theorem applyToWords_lowered (rule : RenameRule) (plain : ∀ word ∈ parts, IsAlphanumeric word)
    : rule.applyToWords (parts.map lowered) = rule.applyToWords parts := by
  have again {words : List (List Char)} (plain : ∀ word ∈ words, IsAlphanumeric word)
      : (words.map lowered).map lowered = words.map lowered := by
    rw [List.map_map]
    exact List.map_congr_left fun word listed => lowered_lowered (plain word listed)
  have capitals {words : List (List Char)} (plain : ∀ word ∈ words, IsAlphanumeric word)
      : (words.map lowered).flatMap capitalized = words.flatMap capitalized := by
    rw [List.flatMap_def, List.flatMap_def, List.map_map]
    congr 1
    exact List.map_congr_left fun word listed => capitalized_lowered (plain word listed)
  cases rule with
  | camelCase =>
      cases parts with
      | nil => rfl
      | cons first rest =>
          obtain ⟨begins, goesOn⟩ := List.forall_mem_cons.mp plain
          rw [List.map_cons, applyToWords, applyToWords, lowered_lowered begins, capitals goesOn]
  | pascalCase => exact capitals plain
  | snakeCase => rw [applyToWords, applyToWords, again plain]
  | lowercase =>
      rw [applyToWords, applyToWords, List.flatMap_def, List.flatMap_def, again plain]

variable {name : String}

/-- The rule that sets words apart with underscores leaves the words of a plain name, in lower case. -/
theorem words_apply_snakeCase (isPlain : IsPlainName name)
    : words (snakeCase.apply name).toList = (words name.toList).map lowered := by
  obtain ⟨plain, lower⟩ := isPlainWord_map_lowered fun word member => isPlain.isPlainWord member
  rw [apply, String.toList_ofList, applyToWords, words_joinedByUnderscore plain lower]

/-- Rules depend only on the words of a name: names with the same words, in upper or lower case, are made
the same. So a name may be put under the rule that sets words apart with underscores before, and no rule
changes a name that it has made itself. -/
theorem apply_apply (rule : RenameRule) (isPlain : IsPlainName name)
    : (∀ other, IsPlainName other →
          (words other.toList).map lowered = (words name.toList).map lowered →
          rule.apply other = rule.apply name)
      ∧ rule.apply (snakeCase.apply name) = rule.apply name
      ∧ rule.apply (rule.apply name) = rule.apply name := by
  have letters {name : String} (isPlain : IsPlainName name)
      : ∀ word ∈ words name.toList, IsAlphanumeric word :=
    fun word member => (isPlain.isPlainWord member).letters
  refine ⟨fun other another same => ?_, ?_, ?_⟩
  · rw [apply, apply, ← applyToWords_lowered rule (letters another), same,
      applyToWords_lowered rule (letters isPlain)]
  · rw [apply, words_apply_snakeCase isPlain, applyToWords_lowered rule (letters isPlain), ← apply]
  · have made := rule.makes_applyToWords fun word member => isPlain.isPlainWord member
    have again := made.applyToWords_eq
    rw [apply, apply, String.toList_ofList, again]

/-- In a raw name with a run of capitals and a word that starts with a digit, the rule merges two words and
keeps what it has made of them. -/
theorem apply_apply_merged
    : IsPlainName "r#HTTP_server2__2nd"
      ∧ camelCase.apply "r#HTTP_server2__2nd" = "hTTPServer22nd"
      ∧ camelCase.apply "h_t_T_pServer2_2nd_" = "hTTPServer22nd"
      ∧ camelCase.apply "h_t_t_p_server2_2nd" = "hTTPServer22nd"
      ∧ camelCase.apply "hTTPServer22nd" = "hTTPServer22nd" := by
  have isPlain : IsPlainName "r#HTTP_server2__2nd" := by decide +kernel
  have made : camelCase.apply "r#HTTP_server2__2nd" = "hTTPServer22nd" := by decide +kernel
  have separated : snakeCase.apply "r#HTTP_server2__2nd" = "h_t_t_p_server2_2nd" := by decide +kernel
  obtain ⟨sameWords, before, again⟩ := apply_apply camelCase isPlain
  rw [separated, made] at before
  rw [made] at again
  refine ⟨isPlain, made, ?_, before, again⟩
  rw [sameWords "h_t_T_pServer2_2nd_" (by decide +kernel) (by decide +kernel), made]

end RenameRule

end TypedQuery.Declaration
