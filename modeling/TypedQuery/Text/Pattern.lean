/-! Patterns of the `like` comparison. A percent sign stands for any run of characters, an
underscore for any one character, and a backslash takes the character after it literally. A
pattern is matched against a whole text, in time proportional to the product of their lengths. -/

namespace TypedQuery.Text

inductive PatternItem where
  /-- Any run of characters, the empty run included. -/
  | anyRun
  /-- Any one character. -/
  | anyOne
  /-- Exactly this character. -/
  | exactly (character : Char)
deriving DecidableEq, Repr

/-- The pieces of a written pattern. A backslash at the very end stands for itself. -/
def patternItems : List Char → List PatternItem
  | [] => []
  | '%' :: rest => .anyRun :: patternItems rest
  | '_' :: rest => .anyOne :: patternItems rest
  | '\\' :: escaped :: rest => .exactly escaped :: patternItems rest
  | character :: rest => .exactly character :: patternItems rest

/-- For every suffix of the text, the longest first, whether it is empty. -/
def emptySuffixes : List Char → List Bool
  | [] => [true]
  | _ :: rest => false :: emptySuffixes rest

/-- For every suffix of the text, whether it consists of a character that passes the test and a
shorter suffix that was accepted before. -/
def afterOne (test : Char → Bool) : List Char → List Bool → List Bool
  | character :: rest, _ :: accepted =>
      (test character && accepted.headD false) :: afterOne test rest accepted
  | _, _ => [false]

/-- For every suffix of the text, whether it or a shorter suffix was accepted before. -/
def afterRun : List Bool → List Bool
  | [] => []
  | accepted :: shorter =>
      let reached := afterRun shorter
      (accepted || reached.headD false) :: reached

/-- For every suffix of the text, the longest first, whether the pattern matches all of it. -/
def matchedSuffixes (text : List Char) : List PatternItem → List Bool
  | [] => emptySuffixes text
  | .anyRun :: rest => afterRun (matchedSuffixes text rest)
  | .anyOne :: rest => afterOne (fun _ => true) text (matchedSuffixes text rest)
  | .exactly character :: rest => afterOne (· == character) text (matchedSuffixes text rest)

def matchesPattern (pattern text : String) : Bool :=
  (matchedSuffixes text.toList (patternItems pattern.toList)).headD false

end TypedQuery.Text
