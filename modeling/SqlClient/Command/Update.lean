import SqlClient.Command.Change
import SqlClient.Table

/-! # UPDATE

`UPDATE table SET column = ?, … [WHERE …] [LIMIT n]`. The new values come before those of the
conditions.
-/
namespace SqlClient

structure Update where
  target : Table
  values : OrderedMap Ident Value := {}
  conditions : Conditions := {}
  limit : Option UInt64 := none
  /-- Add the columns that the table lacks before running. -/
  autoMigrate : Bool := false

namespace Update

def assignment (e : Ident × Value) : Rendered :=
  .ident e.1 ++ .text " = " ++ .value e.2

/-- Without an assignment the keyword is left out. -/
def assignments (q : Update) : Rendered :=
  if q.values.isEmpty then .empty
  else .text " SET " ++ .list (q.values.entries.map assignment)

def render (q : Update) : Rendered :=
  .text "UPDATE " ++ .ident q.target.name ++ q.assignments ++ q.conditions.clause ++
    .bound " LIMIT " q.limit

def change? (q : Update) : Change → Option Update
  | .value column v => some { q with values := q.values.insert column v }
  | .values pairs => some { q with values := q.values.insertAll pairs }
  | .clearValues => some { q with values := {} }
  | .limit n => some { q with limit := some n }
  | _ => none

end Update

end SqlClient
