import SqlClient.Command.Change
import SqlClient.Table

/-! # INSERT

`INSERT INTO table (columns) VALUES (…)`, with the columns that the table asked for when the
statement was made.
-/
namespace SqlClient

structure Insert where
  target : Table
  /-- The columns that must have a value, in the order of the table. -/
  required : List String
  values : OrderedMap Ident Value := {}
  /-- Add the columns that the table lacks before running. -/
  autoMigrate : Bool := false

namespace Insert

def render (q : Insert) : Rendered :=
  .text "INSERT INTO " ++ .ident q.target.name ++ .text " (" ++ .idents q.values.keys ++
    .text ") VALUES (" ++ .list (q.values.values.map .value) ++ .text ")"

/-- The required columns without a value, up to ASCII case. -/
def missing (q : Insert) : List String :=
  q.required.filter fun name => !q.values.keys.any fun column => column.isNamed name

def change? (q : Insert) : Change → Option Insert
  | .value column v => some { q with values := q.values.insert column v }
  | .values pairs => some { q with values := q.values.insertAll pairs }
  | .clearValues => some { q with values := {} }
  | _ => none

end Insert

end SqlClient
