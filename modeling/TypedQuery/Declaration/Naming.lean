import TypedQuery.Text.CaseMapping
import TypedQuery.Text.Identifier
import TypedQuery.Text.Uppercase

/-! How the names of fields and variants become names in queries, and how those become names of
constants. -/

namespace TypedQuery.Declaration

open Text

/-- The convention for the names of all fields or variants of a declaration. -/
inductive RenameRule where
  | camelCase
  | pascalCase
  | snakeCase
  | lowercase
deriving DecidableEq, Repr

/-- The name without the mark of a raw identifier. -/
def withoutRawMark : List Char → List Char
  | 'r' :: '#' :: name => name
  | name => name

/-- The name without any number of marks of a raw identifier. -/
def withoutRawMarks : List Char → List Char
  | 'r' :: '#' :: name => withoutRawMarks name
  | name => name

/-- The words of the rest of a name, after the part of a word already read. Underscores separate
words, and a character in upper case starts a word. -/
def wordsFrom (word : List Char) : List Char → List (List Char)
  | [] => if word.isEmpty then [] else [word]
  | character :: rest =>
      if character = '_' then
        if word.isEmpty then wordsFrom [] rest else word :: wordsFrom [] rest
      else if isUppercase character && !word.isEmpty then word :: wordsFrom [character] rest
      else wordsFrom (word ++ [character]) rest

def words (name : List Char) : List (List Char) :=
  wordsFrom [] (withoutRawMarks name)

def lowered (word : List Char) : List Char :=
  word.flatMap lowerCase

/-- A word with its first character in upper case and the others in lower case. -/
def capitalized : List Char → List Char
  | [] => []
  | first :: rest => upperCase first ++ lowered rest

def joinedByUnderscore : List (List Char) → List Char
  | [] => []
  | [word] => word
  | word :: rest => word ++ '_' :: joinedByUnderscore rest

namespace RenameRule

def applyToWords (rule : RenameRule) (words : List (List Char)) : List Char :=
  match rule, words with
  | .camelCase, [] => []
  | .camelCase, first :: rest => lowered first ++ rest.flatMap capitalized
  | .pascalCase, words => words.flatMap capitalized
  | .snakeCase, words => joinedByUnderscore (words.map lowered)
  | .lowercase, words => words.flatMap lowered

/-- The name of a field or variant under the convention. -/
def apply (rule : RenameRule) (name : String) : String :=
  String.ofList (rule.applyToWords (words name.toList))

def name : RenameRule → String
  | .camelCase => "camelCase"
  | .pascalCase => "PascalCase"
  | .snakeCase => "snake_case"
  | .lowercase => "lowercase"

def all : List RenameRule :=
  [.camelCase, .pascalCase, .snakeCase, .lowercase]

end RenameRule

/-- The constant for the rest of a name in queries. Hyphens become underscores, and an underscore
goes before a character in upper case that follows one that is not; of the others, the letters a
to z are put in upper case. -/
def constantFrom (followsLower : Bool) : List Char → List Char
  | [] => []
  | character :: rest =>
      if isUppercase character then
        if followsLower then '_' :: character :: constantFrom false rest
        else character :: constantFrom false rest
      else if character = '_' ∨ character = '-' then '_' :: constantFrom false rest
      else character.toUpper :: constantFrom true rest

/-- The constant for a name in queries. -/
def constantName (name : String) : String :=
  String.ofList (constantFrom false name.toList)

end TypedQuery.Declaration
