import TypedQuery.Declaration.Lexeme

/-! Which types are written as optional ones: paths of names whose last name is Option, with one
type as its argument. Only the lexemes outside brackets are looked at, where angle brackets hold
the arguments of names. -/

namespace TypedQuery.Declaration

/-- A lexeme outside angle brackets, or the arguments in a pair of angle brackets. -/
inductive TypePiece where
  | lexeme (lexeme : Lexeme)
  | arguments (arguments : List (List Lexeme))
deriving DecidableEq, Repr

/-- The lexemes without the two colons that may stand before the arguments of a name. -/
def withoutArgumentMarks : List Lexeme → List Lexeme
  | [] => []
  | .separator :: .mark '<' :: rest => .mark '<' :: withoutArgumentMarks rest
  | .separator :: .opening .round :: rest => .opening .round :: withoutArgumentMarks rest
  | lexeme :: rest => lexeme :: withoutArgumentMarks rest

/-- The pieces of the rest of a type, where `depth` angle brackets are open. Of the arguments in
the outermost of them `arguments` are read, and `argument` is the start of the next. A comma may
follow the last argument. -/
def piecesFrom (depth : Nat) (arguments : List (List Lexeme)) (argument : List Lexeme)
    : List Lexeme → List TypePiece
  | [] => []
  | lexeme :: rest =>
      match depth, lexeme with
      | 0, .mark '<' => piecesFrom 1 [] [] rest
      | 0, _ => .lexeme lexeme :: piecesFrom 0 [] [] rest
      | 1, .mark '>' =>
          .arguments (if argument.isEmpty then arguments else arguments ++ [argument])
            :: piecesFrom 0 [] [] rest
      | 1, .mark ',' => piecesFrom 1 (arguments ++ [argument]) [] rest
      | _, .mark '<' => piecesFrom (depth + 1) arguments (argument ++ [lexeme]) rest
      | _, .mark '>' => piecesFrom (depth - 1) arguments (argument ++ [lexeme]) rest
      | _, _ => piecesFrom depth arguments (argument ++ [lexeme]) rest

def typePieces (lexemes : List Lexeme) : List TypePiece :=
  piecesFrom 0 [] [] (withoutArgumentMarks lexemes)

/-- The mark gives the name before it a type or a bound. -/
def isBindingMark (character : Char) : Bool :=
  character == '=' || character == ':'

/-- The argument is a type, and no lifetime, constant or binding of a name. -/
def isTypeArgument (argument : List Lexeme) : Bool :=
  match typePieces argument with
  | [] | [.lexeme .lifetime] => false
  | .lexeme (.number _) :: _ | .lexeme .literal :: _ | .lexeme (.mark '-') :: _ => false
  | .lexeme (.opening .curly) :: _ => false
  | [.lexeme (.word name)] => String.ofList name != "true" && String.ofList name != "false"
  | .lexeme (.word _) :: .lexeme (.mark character) :: _ => !isBindingMark character
  | .lexeme (.word _) :: .arguments _ :: .lexeme (.mark character) :: _ => !isBindingMark character
  | _ => true

/-- The pieces from a name on are a path that ends in Option with one type as its argument. Names
before the last may have arguments of their own, in angle brackets or as those of a function. -/
def endsInOption : List TypePiece → Bool
  | [.lexeme (.word name), .arguments [argument]] =>
      String.ofList name == "Option" && isTypeArgument argument
  | .lexeme (.word _) :: .lexeme .separator :: rest => endsInOption rest
  | .lexeme (.word _) :: .arguments _ :: .lexeme .separator :: rest => endsInOption rest
  | .lexeme (.word _) :: .lexeme (.opening .round) :: .lexeme .separator :: rest =>
      endsInOption rest
  | .lexeme (.word _) :: .lexeme (.opening .round) :: .lexeme .arrow
      :: .lexeme (.opening .round) :: .lexeme .separator :: rest => endsInOption rest
  | _ => false

/-- The words that start types of other forms than paths. -/
def typeKeywords : List String :=
  ["dyn", "extern", "fn", "for", "impl", "unsafe"]

/-- The type is written as an optional one. Its path may start with two colons, or with a type in
angle brackets that the path belongs to. -/
def isOptionalType (source : String) : Bool :=
  match typePieces (outline source) with
  | .arguments _ :: .lexeme .separator :: rest => endsInOption rest
  | .lexeme .separator :: rest => endsInOption rest
  | .lexeme (.word first) :: rest =>
      !typeKeywords.contains (String.ofList first) && endsInOption (.lexeme (.word first) :: rest)
  | _ => false

end TypedQuery.Declaration
