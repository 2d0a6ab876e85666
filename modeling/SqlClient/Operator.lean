/-! # Comparison operators -/
namespace SqlClient

inductive Operator where
  | equal
  | notEqual
  | like
  | notLike
  | greater
  | greaterEqual
  | lesser
  | lesserEqual
  | regexp
  deriving DecidableEq

def Operator.sql : Operator → String
  | equal => "="
  | notEqual => "!="
  | like => "LIKE"
  | notLike => "NOT LIKE"
  | greater => ">"
  | greaterEqual => ">="
  | lesser => "<"
  | lesserEqual => "<="
  | regexp => "REGEXP"

end SqlClient
