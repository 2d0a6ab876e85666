import SqlClient.Number.Integer
import SqlClient.Number.Shortest
import SqlClient.Text.Blank
import SqlClient.Text.Hex
import SqlClient.Text.Utf8

/-! # Scalar values

What a placeholder is bound to and what a cell of a result holds, with its readings as text and as
an integer, and its literal for column defaults.
-/
namespace SqlClient

inductive Value where
  | null
  | bool (b : Bool)
  | int (i : Int64)
  | uint (u : UInt64)
  | float (x : Binary64)
  | text (s : String)
  | bytes (bs : List UInt8)
  deriving DecidableEq

namespace Value

def isNull : Value → Bool
  | null => true
  | _ => false

/-- The text of a value; null has none, and bytes are read as UTF-8. -/
def text? : Value → Option String
  | null => none
  | bool b => some (if b then "true" else "false")
  | int i => some (Integer.text i.toInt)
  | uint u => some (Integer.text u.toNat)
  | float x => some x.text
  | text s => some s
  | bytes bs => some (String.ofList (Text.Utf8.decode bs))

def display (v : Value) : String := v.text?.getD "null"

/-- A signed word read from an integer, a truth value or the text of an integer between blanks. -/
def int64? : Value → Option Int64
  | int i => some i
  | uint u => Integer.toInt64? u.toNat
  | bool b => some (if b then 1 else 0)
  | text s => (Integer.read? (Text.trim s.toList)).bind Integer.toInt64?
  | _ => none

def string? : Value → Option String
  | text s => some s
  | _ => none

def doubleQuotes (cs : List Char) : List Char :=
  cs.flatMap fun c => if c = '\'' then ['\'', '\''] else [c]

/-- The literal written as a column default. -/
def literal : Value → String
  | null => "null"
  | bool b => if b then "1" else "0"
  | int i => Integer.text i.toInt
  | uint u => Integer.text u.toNat
  | float x => x.text
  | text s => String.ofList ('\'' :: doubleQuotes s.toList ++ ['\''])
  | bytes bs => String.ofList ('X' :: '\'' :: Text.Hex.encode Text.Hex.capital bs ++ ['\''])

end Value

end SqlClient
