import Scaffold.Number.Binary64
import Scaffold.Variables.Table

/-!
# Conditions

A condition is built from references and literals.  A reference used as a condition asks whether the
variable is defined, whatever its value.  Values of different kinds are never equal.
-/

namespace Scaffold

inductive Literal where
  | text (s : String)
  | number (x : Binary64)
  | bool (b : Bool)
  | null
  | undefined
deriving DecidableEq, Repr

namespace Literal

def truthy : Literal → Bool
  | .text s => s != ""
  | .number x => !x.isZero && !x.isNaN
  | .bool b => b
  | .null => false
  | .undefined => false

def same : Literal → Literal → Bool
  | .text s, .text t => s == t
  | .number x, .number y => x.sameValue y
  | .bool a, .bool b => a == b
  | .null, .null => true
  | .undefined, .undefined => true
  | _, _ => false

end Literal

inductive Condition where
  | reference (scope : Scope) (name : String)
  | literal (value : Literal)
  | not (inner : Condition)
  | and (lhs rhs : Condition)
  | or (lhs rhs : Condition)
  | equal (lhs rhs : Condition)
  | differ (lhs rhs : Condition)
deriving DecidableEq, Repr

namespace Condition

mutual
/-- Whether the condition holds under the tables. -/
def holds (vars : Variables) : Condition → Bool
  | .reference scope name => vars.isDefined scope name
  | .literal value => value.truthy
  | .not inner => !holds vars inner
  | .and lhs rhs => holds vars lhs && holds vars rhs
  | .or lhs rhs => holds vars lhs || holds vars rhs
  | .equal lhs rhs => (value vars lhs).same (value vars rhs)
  | .differ lhs rhs => !(value vars lhs).same (value vars rhs)

/-- The value of an operand; a reference stands for its text and a condition for its truth. -/
def value (vars : Variables) : Condition → Literal
  | .reference scope name =>
      match vars.get scope name with
      | some text => .text text
      | none => .undefined
  | .literal value => value
  | .not inner => .bool (!holds vars inner)
  | .and lhs rhs => .bool (holds vars lhs && holds vars rhs)
  | .or lhs rhs => .bool (holds vars lhs || holds vars rhs)
  | .equal lhs rhs => .bool ((value vars lhs).same (value vars rhs))
  | .differ lhs rhs => .bool (!(value vars lhs).same (value vars rhs))
end

end Condition
end Scaffold
