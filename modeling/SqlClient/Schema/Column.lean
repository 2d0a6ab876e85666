import SqlClient.Error
import SqlClient.Settings
import SqlClient.Value

/-! # Columns

A column as the catalog describes it, and the types of the columns that can be added.
-/
namespace SqlClient

structure ColumnInfo where
  name : String
  type : String
  nullable : Bool := true
  default : Option String := none
  autoIncrement : Bool := false
  primaryKey : Bool := false
  deriving DecidableEq

/-- A row has to bring a value: null is not allowed, and none is filled in. -/
def ColumnInfo.isRequired (c : ColumnInfo) : Bool :=
  !c.nullable && c.default.isNone && !c.autoIncrement

inductive ColumnType where
  | integer
  | bigInt
  | double
  | boolean
  | text
  | varchar (length : UInt16)
  | blob
  | timestamp
  deriving DecidableEq

namespace ColumnType

/-- The type of a column that is added to hold a value. Its length in UTF-8 decides for a text. -/
def forValue : Value → ColumnType
  | .null => text
  | .bool _ => boolean
  | .int _ => bigInt
  | .uint _ => bigInt
  | .float _ => double
  | .text s => if s.utf8ByteSize ≤ maxVarchar then varchar (UInt16.ofNat maxVarchar) else text
  | .bytes _ => blob

/-- A bounded text has a length from one to the longest that is allowed. -/
def fault? : ColumnType → Option SchemaFault
  | varchar n =>
    if n = 0 then some .emptyVarchar
    else if maxVarchar < n.toNat then some (.longVarchar n.toNat)
    else none
  | _ => none

def sql (d : Dialect) : ColumnType → String
  | integer => "INTEGER"
  | bigInt => "BIGINT"
  | double => "DOUBLE"
  | boolean => "BOOLEAN"
  | text => "TEXT"
  | varchar n =>
    if d.hasBoundedVarchar then "VARCHAR(" ++ Nat.repr n.toNat ++ ")" else "TEXT"
  | blob => "BLOB"
  | timestamp => "TIMESTAMP"

end ColumnType

end SqlClient
