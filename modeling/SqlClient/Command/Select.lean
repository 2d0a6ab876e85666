import SqlClient.Command.Change

/-! # SELECT

`SELECT fields FROM table [WHERE …] [GROUP BY …] [ORDER BY … ASC|DESC] [LIMIT n] [OFFSET n]`, and
the statement that counts its rows.
-/
namespace SqlClient

structure Select where
  table : Ident
  fields : List Ident := []
  conditions : Conditions := {}
  groupBy : List Ident := []
  orderBy : List Ident := []
  direction : Direction := .ascending
  limit : Option UInt64 := none
  offset : Option UInt64 := none

namespace Select

/-- The table and the conditions: what decides which rows match. -/
def source (q : Select) : Rendered :=
  .text " FROM " ++ .ident q.table ++ q.conditions.clause

/-- Without a field every column is selected. -/
def projection (q : Select) : Rendered :=
  if q.fields.isEmpty then .text "*" else .idents q.fields

def grouping (q : Select) : Rendered :=
  if q.groupBy.isEmpty then .empty else .text " GROUP BY " ++ .idents q.groupBy

def order (q : Select) : Rendered :=
  if q.orderBy.isEmpty then .empty
  else .text " ORDER BY " ++ .idents q.orderBy ++ .text " " ++ .text q.direction.sql

def render (q : Select) : Rendered :=
  .text "SELECT " ++ q.projection ++ q.source ++ q.grouping ++ q.order ++
    .bound " LIMIT " q.limit ++ .bound " OFFSET " q.offset

theorem binds_projection (q : Select) : q.projection.binds = [] := by
  unfold projection
  split
  · rfl
  · exact Rendered.binds_idents q.fields

theorem binds_grouping (q : Select) : q.grouping.binds = [] := by
  unfold grouping
  split
  · rfl
  · exact Rendered.binds_idents q.groupBy

theorem binds_order (q : Select) : q.order.binds = [] := by
  unfold order
  split
  · rfl
  · simp [Rendered.binds_idents, Rendered.text]

theorem binds_render (q : Select) : q.render.binds = q.source.binds := by
  simp [render, binds_projection, binds_grouping, binds_order, Rendered.binds_bound, Rendered.text]

/-- The statement that counts the matching rows, or the groups of them. Order and bounds do not
matter to it. -/
def count (q : Select) : Rendered :=
  if q.groupBy.isEmpty then .text "SELECT COUNT(*)" ++ q.source
  else
    .text "SELECT COUNT(*) FROM (SELECT " ++ .idents q.groupBy ++ q.source ++ q.grouping ++
      .text ") AS " ++ .ident ⟨"counted"⟩

def change? (q : Select) : Change → Option Select
  | .fields columns => some { q with fields := columns }
  | .addField column => some { q with fields := q.fields ++ [column] }
  | .resetFields => some { q with fields := [] }
  | .groupBy columns => some { q with groupBy := columns }
  | .orderBy columns d => some { q with orderBy := columns, direction := d }
  | .direction d => some { q with direction := d }
  | .limit n => some { q with limit := some n }
  | .offset n => some { q with offset := some n }
  | _ => none

end Select

end SqlClient
