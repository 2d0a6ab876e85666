import SqlClient.Execution
import SqlClient.Schema.Catalog
import SqlClient.Schema.Definition

/-! # Changing the columns of a table

Columns are added and dropped one statement each, after the catalog has been asked whether that
makes sense. A table that does not exist is created with the first column added to it.
-/
namespace SqlClient.Table

variable {σ : Type} [Connection σ]

/-- Runs a statement once, and closes its handle when it has succeeded. -/
def runOnce (t : Table) (r : Rendered) (w : World σ) : Except QueryError Unit × World σ :=
  let a := Execution.run { settings := t.settings } r w
  match a.result with
  | .error e => (.error e, a.world)
  | .ok () => (.ok (), (a.next.close a.world).2)

def columnsIfListed (t : Table) (w : World σ) : Except QueryError (Option Columns) × World σ :=
  let (listed, w) := t.isListed w
  match listed with
  | .error e => (.error e, w)
  | .ok false => (.ok none, w)
  | .ok true =>
    let (columns, w) := Columns.load t w
    (columns.map some, w)

def addColumn (t : Table) (type : ColumnType) (column : Ident) (default : Option Value)
    (w : World σ) : Except QueryError Unit × World σ :=
  match type.fault? with
  | some f => (.error (.schema t.name f), w)
  | none =>
    let (existing, w) := t.columnsIfListed w
    match existing with
    | .error e => (.error e, w)
    | .ok columns =>
      if columns.any fun c => c.contains column.name then
        (.error (.schema t.name (.columnExists column)), w)
      else
        let r := AddColumn.render t.settings.dialect
          ⟨t.name, column, type, default, columns.isNone⟩
        t.runOnce r (w.note (.addingColumn t.name column r.sql))

def dropColumn (t : Table) (column : Ident) (w : World σ) : Except QueryError Unit × World σ :=
  let (columns, w) := Columns.load t w
  match columns with
  | .error e => (.error e, w)
  | .ok columns =>
    if columns.contains column.name then
      let r := DropColumn.render ⟨t.name, column⟩
      t.runOnce r (w.note (.droppingColumn t.name column r.sql))
    else (.error (.schema t.name (.columnMissing column)), w)

/-- Adds the columns that are neither in `existing` nor added yet, each of the type that its value
asks for, up to the first failure. -/
def addMissing (t : Table) (existing : Option Columns) :
    List Ident → List (Ident × Value) → World σ → Except QueryError (List Ident) × World σ
  | added, [], w => (.ok added, w)
  | added, (column, v) :: rest, w =>
    if (existing.any fun c => c.contains column.name) || added.contains column then
      t.addMissing existing added rest w
    else
      let (done, w) := t.addColumn (.forValue v) column none w
      match done with
      | .error e => (.error e, w)
      | .ok () => t.addMissing existing (added ++ [column]) rest w

/-- Adds every column that the table lacks, in order, and gives the names of those. -/
def ensureColumns (t : Table) (pairs : List (Ident × Value)) (w : World σ) :
    Except QueryError (List Ident) × World σ :=
  let (existing, w) := t.columnsIfListed w
  match existing with
  | .error e => (.error e, w)
  | .ok columns => t.addMissing columns [] pairs w

def primaryKey (t : Table) (w : World σ) : Except QueryError (List String) × World σ :=
  let (columns, w) := Columns.load t w
  (columns.map Columns.primaryKey, w)

end SqlClient.Table
