import TypedQuery.Comparison
import TypedQuery.Path
import TypedQuery.Text.Quoted

/-! What can go wrong when arguments are compiled or applied. Errors are kept as causes; their
wording is decided by the `message` functions alone. -/

namespace TypedQuery

structure ClauseContext where
  path : String
  comparison : Comparison
  negate : Bool
deriving DecidableEq, Repr

def ClauseContext.message (context : ClauseContext) : String :=
  "path: " ++ context.path ++ ", comparison: " ++ context.comparison.name ++ ", negate: "
    ++ toString context.negate

/-- Why a path does not lead to a property that can be used. -/
inductive PathFault where
  | malformed (flaw : PathFlaw)
  | endsEarly
  | unknownProperty (segment : String)
  | insideScalar (segment : String) (kind : Kind)
  | notCollection (segment : String)
  | endsAtObject (segment : String)
  | endsAtCollection (segment : String)
  | noElementSelector
  | orderByCollection
  | stated (reason : String)
deriving DecidableEq, Repr

def PathFault.message : PathFault → String
  | .malformed flaw => flaw.message
  | .endsEarly => "path ends before selecting a property"
  | .unknownProperty segment => "no property named '" ++ segment ++ "'"
  | .insideScalar segment kind =>
      "'" ++ segment ++ "' is a " ++ kind.name ++ " value and has no properties"
  | .notCollection segment => "'" ++ segment ++ "' is not a collection"
  | .endsAtObject segment => "'" ++ segment ++ "' is an object; select one of its properties"
  | .endsAtCollection segment =>
      "'" ++ segment ++ "' is a collection; address its elements as " ++ segment ++ "[property]"
  | .noElementSelector => "collection path has no element selector"
  | .orderByCollection => "cannot order by a collection"
  | .stated reason => reason

/-- Why a comparison cannot be made on a property, or not with these operands. -/
inductive OperandFault where
  | notApplicable (comparison : Comparison) (family : Family)
  | notSingle (comparison : Comparison)
  | wrongCount (comparison : Comparison) (count : Nat)
  | nullOperand (comparison : Comparison)
  | missingBounds
  | notSingleValue (comparison : Comparison)
  | stated (reason : String)
deriving DecidableEq, Repr

/-- The wording of the number of operands that a comparison takes. -/
def Arity.operands : Arity → String
  | .pair => "2 values"
  | _ => "1 value"

def OperandFault.message : OperandFault → String
  | .notApplicable comparison family =>
      "cannot perform " ++ comparison.name ++ " on a " ++ family.name ++ " property"
  | .notSingle comparison =>
      "cannot perform " ++ comparison.name ++ " as a single-value comparison"
  | .wrongCount comparison count =>
      comparison.name ++ " requires exactly " ++ comparison.arity.operands ++ ", but "
        ++ toString count ++ " were provided"
  | .nullOperand comparison => comparison.name ++ " requires a non-null value"
  | .missingBounds => "between requires a lower and an upper bound"
  | .notSingleValue comparison => comparison.name ++ " is not a single-value comparison"
  | .stated reason => reason

inductive Fault where
  /-- The path does not lead to a usable property of the type. -/
  | unresolved (typeName path : String) (fault : PathFault)
  /-- The comparison does not go with the property or the operands. -/
  | invalid (fault : OperandFault)
  /-- The token, or a null, is no value of the kind. -/
  | unconvertible (token : Option String) (target : Kind)
deriving DecidableEq, Repr

def Fault.message : Fault → String
  | .unresolved typeName path fault =>
      "cannot resolve path '" ++ path ++ "' on " ++ typeName ++ ": " ++ fault.message
  | .invalid fault => "invalid clause: " ++ fault.message
  | .unconvertible token target =>
      "cannot convert " ++ (token.map Text.quoted).getD "null" ++ " to " ++ target.name

inductive ConfigurationFault where
  | compositeKey (count : Nat)
  | unstableOrder
  | stated (reason : String)
deriving DecidableEq, Repr

def ConfigurationFault.message : ConfigurationFault → String
  | .compositeKey count =>
      "composite keys are not supported, but " ++ toString count ++ " key names are configured"
  | .unstableOrder => "the source has no stable order; supply an order_by"
  | .stated reason => reason

/-- An error raised while arguments are compiled or applied. -/
inductive QueryError where
  /-- A fault, with the clause that was being compiled if there was one. -/
  | faulty (fault : Fault) (context : Option ClauseContext)
  /-- The operation cannot be applied under this configuration. -/
  | configuration (operation : String) (fault : ConfigurationFault)
  /-- A hook refused, in its own words. -/
  | hook (message : String)
deriving DecidableEq, Repr

namespace QueryError

/-- Records the clause that was being compiled, unless one is recorded already. Only faults belong
to a clause. -/
def inClause (context : ClauseContext) : QueryError → QueryError
  | .faulty fault none => .faulty fault (some context)
  | error => error

def context? : QueryError → Option ClauseContext
  | .faulty _ context => context
  | _ => none

/-- The wording of an error. A fault names its clause at the end. -/
def message : QueryError → String
  | .faulty fault none => fault.message
  | .faulty fault (some context) => fault.message ++ " (" ++ context.message ++ ")"
  | .configuration operation fault => "cannot apply " ++ operation ++ ": " ++ fault.message
  | .hook message => message

end QueryError

end TypedQuery
