import SqlClient.Proofs.Migration.Catalog
import SqlClient.Proofs.Reading.Name

/-! # A connection that is a catalog

It has no rows. Of the statements that it executes it reads those that add columns, refuses the ones
that make no sense, and shows the others in its catalog.
-/
namespace SqlClient

structure Addition where
  create : Bool
  table : Ident
  column : Ident
  deriving DecidableEq

namespace Reading

/-- The names of the table and of the column, with a keyword between them. What follows is not
read. -/
def addedBy (create : Bool) (keyword : String) : Reader Addition := do
  let table ← name
  skip keyword
  let column ← name
  return ⟨create, table, column⟩

def addition : Reader Addition := do
  if ← taken "CREATE TABLE " then addedBy true " ("
  else
    skip "ALTER TABLE "
    addedBy false " ADD COLUMN "

def addition? (sql : String) : Option Addition :=
  (addition.run ⟨sql.toList, []⟩).map Prod.fst

theorem reads_addedBy (create : Bool) {keyword : String}
    (hk : keyword.toList.head?.any endsName = true) (table column : Ident) :
    Reads (addedBy create keyword) (.ident table ++ (.text keyword ++ .ident column))
      ⟨create, table, column⟩ (Begins endsName) := by
  have hcolumn : Reads (do let column ← name; return (⟨create, table, column⟩ : Addition))
      (.ident column) ⟨create, table, column⟩ (Begins endsName) := (reads_name column).map _
  exact (reads_name table).bind ((Reads.skip keyword).bind_any hcolumn)
    fun t _ => begins_append hk _ t

def opening : Addition → Rendered
  | ⟨true, table, column⟩ =>
    .text "CREATE TABLE " ++ (.ident table ++ (.text " (" ++ .ident column))
  | ⟨false, table, column⟩ =>
    .text "ALTER TABLE " ++ (.ident table ++ (.text " ADD COLUMN " ++ .ident column))

theorem reads_addition (a : Addition) : Reads addition (opening a) a (Begins endsName) := by
  obtain ⟨create, table, column⟩ := a
  cases create with
  | true => exact Reads.taken_then (reads_addedBy true (by decide) table column)
  | false =>
    have hadded : Reads (addedBy false " ADD COLUMN ")
        (.ident table ++ (.text " ADD COLUMN " ++ .ident column)) ⟨false, table, column⟩
        (Begins endsName) := reads_addedBy false (by decide) table column
    exact Reads.taken_else ((Reads.skip _).bind_any hadded) fun t _ => unlike_append (by decide) _ t

theorem render_eq_opening (dialect : Dialect) (a : AddColumn) :
    ∃ rest, a.render dialect = opening ⟨a.create, a.table, a.column⟩ ++ (.text " " ++ rest) := by
  obtain ⟨table, column, type, default, create⟩ := a
  unfold AddColumn.render AddColumn.definition
  cases create with
  | true =>
    simp only [opening, Rendered.append_assoc, if_true]
    exact ⟨_, rfl⟩
  | false =>
    simp only [opening, Rendered.append_assoc]
    exact ⟨_, rfl⟩

theorem addition?_render (dialect : Dialect) (a : AddColumn) :
    addition? (a.render dialect).sql = some ⟨a.create, a.table, a.column⟩ := by
  obtain ⟨rest, hrest⟩ := render_eq_opening dialect a
  have hread := reads_addition ⟨a.create, a.table, a.column⟩
    (Input.behind ⟨[], []⟩ (.text " " ++ rest)) (begins_append (by decide) rest [])
  rw [← Input.behind_append, ← hrest, Input.behind, a.binds_render, List.append_nil,
    List.nil_append] at hread
  unfold addition?
  rw [hread]
  rfl

end Reading

/-- The tables, and every column with its table. -/
structure CatalogOnly where
  tables : List Ident := []
  columns : List (Ident × Ident) := []
  deriving DecidableEq

namespace CatalogOnly

def isListed (d : CatalogOnly) (table : String) : Bool :=
  d.tables.any fun t => Text.sameName table t.name

def columnsOf (d : CatalogOnly) (table : String) : List String :=
  (d.columns.filter fun p => Text.sameName table p.1.name).map fun p => p.2.name

def isColumn (d : CatalogOnly) (table column : String) : Bool :=
  (d.columnsOf table).any fun name => Text.sameName name column

/-- A table that is created has no column but its first. -/
def create (d : CatalogOnly) (table column : Ident) : CatalogOnly where
  tables := d.tables ++ [table]
  columns := d.columns.filter (fun p => !Text.sameName table.name p.1.name) ++ [(table, column)]

def add (d : CatalogOnly) (table column : Ident) : CatalogOnly :=
  { d with columns := d.columns ++ [(table, column)] }

def apply (d : CatalogOnly) (a : Addition) : Except DriverError CatalogOnly :=
  if a.create then
    if d.isListed a.table.name then .error ⟨.other, "table exists"⟩
    else .ok (d.create a.table a.column)
  else if !d.isListed a.table.name then .error ⟨.other, "no such table"⟩
  else if d.isColumn a.table.name a.column.name then .error ⟨.other, "column exists"⟩
  else .ok (d.add a.table a.column)

def run (d : CatalogOnly) (sql : String) : Except DriverError Outcome × CatalogOnly :=
  match Reading.addition? sql with
  | none => (.ok (.affected 0), d)
  | some a =>
    match d.apply a with
    | .ok e => (.ok (.affected 0), e)
    | .error e => (.error e, d)

instance : Connection CatalogOnly where
  prepare _ d := (.ok (), d)
  bind _ _ _ d := (.ok (), d)
  execute h d := d.run h.text
  close _ d := (.ok (), d)
  isAlive d := (true, d)
  reconnect d := (true, d)
  listTables d := (.ok (d.tables.map Ident.name), d)
  describeColumns table d :=
    (.ok ((d.columnsOf table).map fun name => { name, type := "TEXT" }), d)

open Connection

theorem lists_eq (d : CatalogOnly) (table : Ident) : lists d table = d.isListed table.name :=
  List.any_map

theorem has_eq (d : CatalogOnly) (table column : Ident) :
    has d table column = (d.isListed table.name && d.isColumn table.name column.name) := by
  unfold has
  rw [lists_eq]
  congr 1
  exact List.any_map

theorem isListed_create (d : CatalogOnly) (table column : Ident) :
    (d.create table column).isListed table.name = true := by
  unfold isListed create
  rw [List.any_append, List.any_cons, Text.sameName_refl, Bool.true_or, Bool.or_true]

theorem isColumn_create (d : CatalogOnly) (table column : Ident) (name : String) :
    (d.create table column).isColumn table.name name = Text.sameName column.name name := by
  have hold : (d.columns.filter fun p => !Text.sameName table.name p.1.name).filter
      (fun p => Text.sameName table.name p.1.name) = [] := by
    simp [List.filter_filter]
  unfold isColumn columnsOf create
  rw [List.filter_append, hold]
  simp [Text.sameName_refl]

theorem isColumn_add (d : CatalogOnly) (table column : Ident) (name : String) :
    (d.add table column).isColumn table.name name =
      (d.isColumn table.name name || Text.sameName column.name name) := by
  unfold isColumn columnsOf add
  rw [List.filter_append, List.map_append, List.any_append]
  simp [Text.sameName_refl]

theorem apply_create {d : CatalogOnly} {table : Ident} (column : Ident)
    (h : d.isListed table.name = false) :
    d.apply ⟨true, table, column⟩ = .ok (d.create table column) := by
  unfold apply
  rw [if_pos rfl, if_neg (ne_true_of_eq_false h)]

theorem apply_add {d : CatalogOnly} {table column : Ident} (h : d.isListed table.name = true)
    (hc : d.isColumn table.name column.name = false) :
    d.apply ⟨false, table, column⟩ = .ok (d.add table column) := by
  unfold apply
  rw [if_neg Bool.false_ne_true, h, if_neg (by decide), if_neg (ne_true_of_eq_false hc)]

theorem run_render {dialect : Dialect} {d e : CatalogOnly} {a : AddColumn}
    (h : d.apply ⟨a.create, a.table, a.column⟩ = .ok e) :
    d.run (a.render dialect).sql = (.ok (.affected 0), e) := by
  unfold run
  rw [Reading.addition?_render]
  dsimp only
  rw [h]

/-- What is added shows, and everything else stays as it was. -/
theorem reflects (dialect : Dialect) : Reflects CatalogOnly dialect where
  prepare _ _ := ⟨rfl, fun _ => rfl, fun _ _ => rfl⟩
  close _ _ := ⟨fun _ => rfl, fun _ _ => rfl⟩
  listTables _ := ⟨⟨_, rfl⟩, fun _ => rfl, fun _ _ => rfl⟩
  describeColumns _ _ := ⟨⟨_, rfl⟩, fun _ => rfl, fun _ _ => rfl⟩
  execute d h a hsql hcreate hnew := by
    have hrun : execute h d = d.run (a.render dialect).sql := congrArg d.run hsql
    rw [lists_eq] at hcreate
    rw [has_eq] at hnew
    simp only [has_eq, lists_eq]
    cases hl : d.isListed a.table.name with
    | false =>
      have happly := apply_create a.column hl
      rw [hl] at hcreate
      rw [show true = a.create from hcreate.symm] at happly
      rw [hrun, run_render happly]
      refine ⟨⟨_, rfl⟩, isListed_create d _ _, ?_⟩
      intro column
      rw [isListed_create, isColumn_create]
      rfl
    | true =>
      rw [hl] at hcreate hnew
      have happly := apply_add hl hnew
      rw [show false = a.create from hcreate.symm] at happly
      rw [hrun, run_render happly]
      have hlisted : (d.add a.table a.column).isListed a.table.name = true := hl
      refine ⟨⟨_, rfl⟩, hlisted, ?_⟩
      intro column
      rw [hlisted, isColumn_add, Bool.true_and, Bool.true_and]

end CatalogOnly

end SqlClient
