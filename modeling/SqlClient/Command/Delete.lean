import SqlClient.Command.Change

/-! # DELETE

`DELETE FROM table [WHERE …] [LIMIT n] [OFFSET n]`.
-/
namespace SqlClient

structure Delete where
  table : Ident
  conditions : Conditions := {}
  limit : Option UInt64 := none
  offset : Option UInt64 := none

namespace Delete

def render (q : Delete) : Rendered :=
  .text "DELETE FROM " ++ .ident q.table ++ q.conditions.clause ++ .bound " LIMIT " q.limit ++
    .bound " OFFSET " q.offset

def change? (q : Delete) : Change → Option Delete
  | .limit n => some { q with limit := some n }
  | .offset n => some { q with offset := some n }
  | _ => none

end Delete

end SqlClient
