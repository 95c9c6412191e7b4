import TypedQuery.Text.Blank

/-! The lexemes of source text: words, numbers, quoted texts, brackets and marks. White space and
comments separate lexemes and are none themselves. -/

namespace TypedQuery.Declaration

open Text

/-- A kind of bracket that always comes in pairs. -/
inductive Bracket where
  | round
  | square
  | curly
deriving DecidableEq, Repr

inductive Lexeme where
  /-- A name or keyword, with its mark if it is a raw identifier. -/
  | word (name : List Char)
  /-- A number up to a point or sign in it, with its suffix. -/
  | number (digits : List Char)
  /-- A literal that is no number: a text or character in quotation marks, or the one that stands
  for an error. -/
  | literal
  | lifetime
  | documentation
  | opening (bracket : Bracket)
  | closing (bracket : Bracket)
  | separator
  | arrow
  | mark (character : Char)
deriving DecidableEq, Repr

/-- The character separates lexemes: white space, or a mark of the direction of writing. -/
def isSpacing (character : Char) : Bool :=
  isBlank character || character == '\u200E' || character == '\u200F'

/-- A name may start with the character. Outside quotations and comments, a character beyond ASCII
either separates lexemes or belongs to a name. -/
def startsName (character : Char) : Bool :=
  character.isAlpha || character == '_'
    || (Nat.ble 0x80 character.toNat && !isSpacing character)

def continuesName (character : Char) : Bool :=
  startsName character || character.isDigit

/-- The text after the end of a comment, of which `depth` comments within it are open. -/
def afterComment (depth : Nat) : List Char → List Char
  | [] => []
  | '/' :: '*' :: rest => afterComment (depth + 1) rest
  | '*' :: '/' :: rest => if depth = 0 then rest else afterComment (depth - 1) rest
  | _ :: rest => afterComment depth rest

/-- The text after the quotation mark that ends a quotation. A backslash takes away the meaning of
the character after it. -/
def afterQuotation (quote : Char) : List Char → List Char
  | [] => []
  | '\\' :: _ :: rest => afterQuotation quote rest
  | character :: rest => if character = quote then rest else afterQuotation quote rest

/-- The text after the quotation mark and number signs that end a raw quotation. -/
def afterRawQuotation (signs : List Char) : List Char → List Char
  | [] => []
  | character :: rest =>
      if character = '\x22' ∧ signs.isPrefixOf rest then rest.drop signs.length
      else afterRawQuotation signs rest

/-- The text without a name at its start. -/
def afterName : List Char → List Char
  | [] => []
  | first :: rest =>
      if startsName first then rest.dropWhile continuesName else first :: rest

/-- The lexeme that starts with a word, and the text after it. Some words start quotations, and one
starts raw identifiers. -/
def wordLexeme (name rest : List Char) : Lexeme × List Char :=
  let signs := rest.takeWhile (· == '#')
  match String.ofList name, signs, rest.drop signs.length with
  | "b", [], '\x22' :: text => (.literal, afterName (afterQuotation '\x22' text))
  | "c", [], '\x22' :: text => (.literal, afterName (afterQuotation '\x22' text))
  | "b", [], '\x27' :: text => (.literal, afterName (afterQuotation '\x27' text))
  | "r", _, '\x22' :: text => (.literal, afterName (afterRawQuotation signs text))
  | "br", _, '\x22' :: text => (.literal, afterName (afterRawQuotation signs text))
  | "cr", _, '\x22' :: text => (.literal, afterName (afterRawQuotation signs text))
  | "r", ['#'], first :: text =>
      if startsName first then
        (.word ('r' :: '#' :: first :: text.takeWhile continuesName),
          text.dropWhile continuesName)
      else (.word name, rest)
  | _, _, _ => (.word name, rest)

/-- The lexeme that starts with an apostrophe, and the text after it: a character in quotation
marks, or a lifetime. -/
def apostropheLexeme : List Char → Lexeme × List Char
  | '\\' :: rest => (.literal, afterName (afterQuotation '\x27' ('\\' :: rest)))
  | _ :: '\x27' :: rest => (.literal, afterName rest)
  | 'r' :: '#' :: rest => (.lifetime, afterName rest)
  | rest => (.lifetime, afterName rest)

/-- The lexeme or comment that starts with a slash, and the text after it. -/
def slashLexeme : List Char → Option Lexeme × List Char
  | '/' :: '/' :: '/' :: rest => (none, rest.dropWhile (· != '\n'))
  | '/' :: '/' :: rest => (some .documentation, rest.dropWhile (· != '\n'))
  | '/' :: rest => (none, rest.dropWhile (· != '\n'))
  | '*' :: '*' :: '/' :: rest => (none, rest)
  | '*' :: '*' :: '*' :: rest => (none, afterComment 0 ('*' :: '*' :: rest))
  | '*' :: '*' :: rest => (some .documentation, afterComment 0 ('*' :: rest))
  | '*' :: rest => (none, afterComment 0 rest)
  | rest => (some (.mark '/'), rest)

/-- What follows the opening bracket of the literal that stands for an error. Written in another
way, even with other space, it is a comment in brackets. -/
def errorLiteral : List Char :=
  "/*ERROR*/)".toList

/-- The lexeme that starts with a bracket or another mark, and the text after it. -/
def markLexeme (first : Char) (rest : List Char) : Lexeme × List Char :=
  match first, rest with
  | '(', _ =>
      if errorLiteral.isPrefixOf rest then (.literal, rest.drop errorLiteral.length)
      else (.opening .round, rest)
  | '[', _ => (.opening .square, rest)
  | '\x7b', _ => (.opening .curly, rest)
  | ')', _ => (.closing .round, rest)
  | ']', _ => (.closing .square, rest)
  | '\x7d', _ => (.closing .curly, rest)
  | ':', ':' :: after => (.separator, after)
  | '-', '>' :: after => (.arrow, after)
  | _, _ => (.mark first, rest)

/-- What the text starts with, if it is a lexeme, and the text after it. -/
def nextLexeme (first : Char) (rest : List Char) : Option Lexeme × List Char :=
  if isSpacing first then (none, rest)
  else if first = '/' then slashLexeme rest
  else
    let (lexeme, after) :=
      if first = '\x22' then (.literal, afterName (afterQuotation '\x22' rest))
      else if first = '\x27' then apostropheLexeme rest
      else if first.isDigit then
        (.number (first :: rest.takeWhile continuesName),
          rest.dropWhile continuesName)
      else if startsName first then
        wordLexeme (first :: rest.takeWhile continuesName)
          (rest.dropWhile continuesName)
      else markLexeme first rest
    (some lexeme, after)

/-- The lexemes of a text, of which at most the given number of lexemes and gaps are read. -/
def lexemesWithin : Nat → List Char → List Lexeme
  | 0, _ => []
  | _, [] => []
  | limit + 1, first :: rest =>
      let (lexeme?, after) := nextLexeme first rest
      lexeme?.toList ++ lexemesWithin limit after

/-- The lexemes of source text. Each lexeme and each gap takes a character at least, so there are at
most as many of them as characters. -/
def lexemes (source : String) : List Lexeme :=
  lexemesWithin source.toList.length source.toList

def isBlankSource (source : String) : Bool :=
  (lexemes source).isEmpty

/-- The word that the source text consists of, if it is one. -/
def soleWord? (source : String) : Option String :=
  match lexemes source with
  | [.word name] => some (String.ofList name)
  | _ => none

/-- The lexemes outside brackets in the rest of a text, where `depth` brackets are open. -/
def outlineFrom (depth : Nat) : List Lexeme → List Lexeme
  | [] => []
  | .opening bracket :: rest =>
      if depth = 0 then .opening bracket :: outlineFrom 1 rest else outlineFrom (depth + 1) rest
  | .closing _ :: rest => outlineFrom (depth - 1) rest
  | lexeme :: rest => if depth = 0 then lexeme :: outlineFrom 0 rest else outlineFrom depth rest

/-- The lexemes of source text outside brackets. An opening bracket stands for all up to the bracket
that closes it. -/
def outline (source : String) : List Lexeme :=
  outlineFrom 0 (lexemes source)

end TypedQuery.Declaration
