import Scaffold.Error
import Scaffold.Guard.Parser

/-!
# Guards of jobs

The `when` of a job is a text that is read as a condition each time it is asked.
-/

namespace Scaffold
namespace Guard

def conditionOf (expression : String) : Except DocumentError Condition :=
  (parse expression).mapError fun fault => .invalidExpression expression fault.message

/-- Whether the guard holds under the tables. -/
def evaluate (expression : String) (vars : Variables) : Except DocumentError Bool :=
  (conditionOf expression).map fun condition => condition.holds vars

end Guard
end Scaffold
