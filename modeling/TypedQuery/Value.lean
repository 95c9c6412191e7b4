import TypedQuery.Calendar.Instant
import TypedQuery.Number
import TypedQuery.Uuid

/-! Values that properties are read as and that clauses compare with. Three relations on them
serve three purposes: `compare?` and `equals` decide clauses, `sortCompare?` puts items in order,
and `same` tells whether the two bounds of a range are one value. -/

namespace TypedQuery

/-- A value of some kind, or none. -/
inductive Value where
  | text (text : String)
  | number (number : Number)
  | instant (instant : Instant)
  | date (date : Date)
  | variant (number : UInt32)
  | flag (flag : Bool)
  | uuid (uuid : Uuid)
  | null
deriving DecidableEq, Repr

namespace Value

/-- The value is absent. -/
def isNull : Value → Bool
  | .null => true
  | _ => false

def text? : Value → Option String
  | .text content => some content
  | _ => none

def number? : Value → Option Number
  | .number amount => some amount
  | _ => none

/-- The order of a field and an operand of one kind. Null has no order to anything, and neither
has NaN. Texts are ordered by code points. -/
def compare? : Value → Value → Option Ordering
  | .text field, .text operand => some (compare field operand)
  | .number field, .number operand => field.compare? operand
  | .instant field, .instant operand => some (field.compare operand)
  | .date field, .date operand => some (field.compare operand)
  | .variant field, .variant operand => some (compare field operand)
  | .flag field, .flag operand => some (compare field operand)
  | .uuid field, .uuid operand => some (field.compare operand)
  | _, _ => none

/-- A field equals an operand; null equals null and nothing else. -/
def equals : Value → Value → Bool
  | .null, .null => true
  | .null, _ => false
  | _, .null => false
  | field, operand => field.compare? operand == some .eq

/-- The order in which values of one kind are sorted: null first, then NaN, then all others. -/
def sortCompare? : Value → Value → Option Ordering
  | .text left, .text right => some (compare left right)
  | .number left, .number right => some (left.sortCompare right)
  | .instant left, .instant right => some (left.compare right)
  | .date left, .date right => some (left.compare right)
  | .variant left, .variant right => some (compare left right)
  | .flag left, .flag right => some (compare left right)
  | .uuid left, .uuid right => some (left.compare right)
  | .null, .null => some .eq
  | .null, _ => some .lt
  | _, .null => some .gt
  | _, _ => none

/-- The values are of one kind, and of one representation if they are numbers, and equal. -/
def same : Value → Value → Bool
  | .text left, .text right => left == right
  | .number left, .number right => left.same right
  | .instant left, .instant right => left == right
  | .date left, .date right => left == right
  | .variant left, .variant right => left == right
  | .flag left, .flag right => left == right
  | .uuid left, .uuid right => left == right
  | .null, .null => true
  | _, _ => false

end Value

end TypedQuery
