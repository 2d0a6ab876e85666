import SqlClient.OrderedMap
import SqlClient.Text.Case
import SqlClient.Value

/-! # Rows

The values of one row under the labels of its columns. A label may occur twice, and there may be
more or fewer labels than values.
-/
namespace SqlClient

structure Row where
  columns : List String
  values : List Value
  deriving DecidableEq

namespace Row

def size (r : Row) : Nat := r.values.length

def isEmpty (r : Row) : Bool := r.values.isEmpty

def at? (r : Row) (i : Nat) : Option Value := r.values[i]?

/-- The value at the place of the first label equal up to ASCII case. -/
def get? (r : Row) (column : String) : Option Value :=
  (r.columns.findIdx? fun label => Text.sameName label column).bind r.at?

/-- The values by label; of a label that occurs twice the last value counts. -/
def toMap (r : Row) : OrderedMap String Value := .ofList (r.columns.zip r.values)

def toStrings (r : Row) : List (Option String) := r.values.map Value.text?

def toStringMap (r : Row) : OrderedMap String (Option String) :=
  .ofList (r.columns.zip r.toStrings)

end Row

end SqlClient
