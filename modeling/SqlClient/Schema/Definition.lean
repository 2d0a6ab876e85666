import SqlClient.Rendered
import SqlClient.Schema.Column

/-! # Statements that define columns

The statements that create a table with one column and that add or drop a column. They have no
placeholders: a default is written as a literal.
-/
namespace SqlClient

structure AddColumn where
  table : Ident
  column : Ident
  type : ColumnType
  default : Option Value
  /-- The table does not exist yet. -/
  create : Bool

def AddColumn.definition (d : Dialect) (a : AddColumn) : Rendered :=
  .ident a.column ++ .text " " ++ .text (a.type.sql d) ++
    match a.default with
    | none => .empty
    | some v => .text " DEFAULT " ++ .text v.literal

def AddColumn.render (d : Dialect) (a : AddColumn) : Rendered :=
  if a.create then
    .text "CREATE TABLE " ++ .ident a.table ++ .text " (" ++ a.definition d ++ .text ")"
  else .text "ALTER TABLE " ++ .ident a.table ++ .text " ADD COLUMN " ++ a.definition d

structure DropColumn where
  table : Ident
  column : Ident

def DropColumn.render (d : DropColumn) : Rendered :=
  .text "ALTER TABLE " ++ .ident d.table ++ .text " DROP COLUMN " ++ .ident d.column

end SqlClient
