/-! Property paths. A path names properties one after the other, with dots between the names. It
may end in a bracket: then the properties before the bracket lead to a collection, and the text in
the bracket is a path of its own that is applied to each element. -/

namespace TypedQuery

inductive PathFlaw where
  | empty
  | notClosedAtEnd
  | emptyBracket
  | unbalancedBracket
  | emptySegment
deriving DecidableEq, Repr

def PathFlaw.message : PathFlaw → String
  | .empty => "path is empty"
  | .notClosedAtEnd => "a bracketed segment must close at the end of the path"
  | .emptyBracket => "bracketed segment is empty"
  | .unbalancedBracket => "unbalanced ']'"
  | .emptySegment => "path contains an empty segment"

/-- A path: the names of properties, and the text in the bracket if there is one. -/
structure Path where
  segments : List String
  element : Option String
deriving DecidableEq, Repr

namespace Path

/-- The path addresses the elements of a collection. -/
def isCollection (path : Path) : Bool :=
  path.element.isSome

/-- The pieces of a text between dots. A text without a dot is one piece, so there is always at
least one. -/
def splitAtDots : List Char → List (List Char)
  | [] => [[]]
  | character :: rest =>
      let pieces := splitAtDots rest
      if character = '.' then [] :: pieces
      else (character :: pieces.headD []) :: pieces.tail

/-- The part of a text before its bracket, and the text in the bracket if there is one. Only the
first opening bracket and the very last character count as the bracket. -/
def splitBracket (text : List Char) : Except PathFlaw (List Char × Option (List Char)) :=
  let outer := text.takeWhile (· != '[')
  match text.dropWhile (· != '[') with
  | [] => if text.contains ']' then .error .unbalancedBracket else .ok (outer, none)
  | _ :: rest =>
      if rest.getLast? != some ']' then .error .notClosedAtEnd
      else if rest.dropLast.isEmpty then .error .emptyBracket
      else .ok (outer, some rest.dropLast)

def parse (raw : String) : Except PathFlaw Path :=
  if raw.toList.isEmpty then .error .empty
  else
    match splitBracket raw.toList with
    | .error flaw => .error flaw
    | .ok (outer, element) =>
        let segments := splitAtDots outer
        if segments.any List.isEmpty then .error .emptySegment
        else .ok ⟨segments.map String.ofList, element.map String.ofList⟩

/-- The text of a path: names with dots between them, then the bracket. -/
def toText (path : Path) : String :=
  let dotted := String.intercalate "." path.segments
  match path.element with
  | none => dotted
  | some element => dotted ++ "[" ++ element ++ "]"

end Path

end TypedQuery
