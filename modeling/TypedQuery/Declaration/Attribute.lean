import TypedQuery.Declaration.Naming
import TypedQuery.Declaration.Lexeme

/-! Attributes that expose the fields and variants of a declaration to queries. -/

namespace TypedQuery.Declaration

inductive AttributeItem where
  /-- A path of names. -/
  | word (path : String)
  /-- A name with a text. -/
  | text (name text : String)
  | literal (name source : String)
  /-- A name with parentheses of its own. -/
  | nested (name inner : String)
deriving DecidableEq, Repr

/-- An attribute, with its items if it has parentheses. -/
structure Attribute where
  name : String
  items : Option (List AttributeItem)
deriving DecidableEq, Repr

inductive ExposedAs where
  | scalar
  | enumeration
  | object
  | collection
deriving DecidableEq, Repr

inductive DeclarationFault where
  | noParentheses
  | unknownKind (word : String)
  | notOneWord
  | notText
  | unknownRule (name : String)
  | unknownName
  | unknownItem
  | genericRecord
  | unnamedFields
  | notRecord
  | duplicateName (name : String)
  | invalidConstant (name : String)
  | genericEnumeration
  | notEnumeration
  | variantWithData
  | notIntegerLiteral
  | numberTooLarge
  | numberOverflow
deriving DecidableEq, Repr

def DeclarationFault.message : DeclarationFault → String
  | .noParentheses => "expected attribute arguments in parentheses: #[query(...)]"
  | .unknownKind word =>
      "unknown query kind: '" ++ word ++ "'. Expected one of: Scalar, Enum, Nested, List"
  | .notOneWord => "expected query kind: Scalar, Enum, Nested, List, or skip"
  | .notText => "expected a string literal"
  | .unknownRule name =>
      "unknown rename_all rule: '" ++ name
        ++ "'. Expected one of: camelCase, PascalCase, snake_case, lowercase"
  | .unknownName => "unknown attribute. Expected: rename or rename_all"
  | .unknownItem =>
      "unknown query attribute. Expected: Scalar, Enum, Nested, List, skip, rename = \"...\", "
        ++ "or rename_all = \"...\""
  | .genericRecord => "Queryable cannot be derived for generic structs; implement it by hand"
  | .unnamedFields => "Queryable can only be derived for structs with named fields"
  | .notRecord => "Queryable can only be derived for structs"
  | .duplicateName name => "duplicate query name '" ++ name ++ "'"
  | .invalidConstant name => "'" ++ name ++ "' is no identifier"
  | .genericEnumeration => "QueryEnum cannot be derived for generic enums"
  | .notEnumeration => "QueryEnum can only be derived for enums"
  | .variantWithData => "QueryEnum variants cannot carry data"
  | .notIntegerLiteral => "QueryEnum discriminants must be integer literals"
  | .numberTooLarge => "number too large to fit in target type"
  | .numberOverflow => "QueryEnum discriminant overflows u32"

structure Exposure where
  exposedAs : Option ExposedAs := none
  skip : Bool := false
  rename : Option String := none
  renameAll : Option RenameRule := none
deriving DecidableEq, Repr

def ExposedAs.ofWord? : String → Option ExposedAs
  | "Scalar" | "scalar" => some .scalar
  | "Enum" | "enumeration" => some .enumeration
  | "Nested" | "nested" => some .object
  | "List" | "list" => some .collection
  | _ => none

namespace Exposure

/-- The wishes after one more item; a later item overrides an earlier one. -/
def add (exposure : Exposure) : AttributeItem → Except DeclarationFault Exposure
  | .word path =>
      match soleWord? path with
      | none => .error .notOneWord
      | some "skip" => .ok { exposure with skip := true }
      | some word =>
          match ExposedAs.ofWord? word with
          | some exposedAs => .ok { exposure with exposedAs := some exposedAs }
          | none => .error (.unknownKind word)
  | .text name text =>
      match soleWord? name with
      | some "rename" => .ok { exposure with rename := some text }
      | some "rename_all" =>
          match RenameRule.all.find? (fun rule => rule.name == text) with
          | some rule => .ok { exposure with renameAll := some rule }
          | none => .error (.unknownRule text)
      | _ => .error .unknownName
  | .literal _ _ => .error .notText
  | .nested _ _ => .error .unknownItem

def ofItems (items : List AttributeItem) : Except DeclarationFault Exposure :=
  items.foldlM add {}

/-- The wishes of a list of attributes: those of the first attribute of queries alone. -/
def ofAttributes (attributes : List Attribute) : Except DeclarationFault Exposure :=
  match attributes.find? (fun candidate => soleWord? candidate.name == some "query") with
  | none => .ok {}
  | some ⟨_, none⟩ => .error .noParentheses
  | some ⟨_, some items⟩ => ofItems items

end Exposure

/-- The name in queries of a field or variant: the one it asks for, else its own name under the
convention of the declaration. -/
def queryName (own container : Exposure) (identifier : String) : String :=
  let base := String.ofList (withoutRawMark identifier.toList)
  match own.rename, container.renameAll with
  | some name, _ => name
  | none, some rule => rule.apply base
  | none, none => base

end TypedQuery.Declaration
