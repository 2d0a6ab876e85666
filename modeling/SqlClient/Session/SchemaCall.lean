import SqlClient.Schema.Migration
import SqlClient.Session.Answer

/-! # Calls on tables and on column sets -/
namespace SqlClient

inductive TableCall where
  | isListed
  | primaryKey
  | addColumn (type : ColumnType) (column : Ident) (default : Option Value)
  | dropColumn (column : Ident)
  | ensureColumns (pairs : List (Ident × Value))
  | settings
  /-- Asks the connection. -/
  | isAlive

inductive ColumnsCall where
  | refresh
  | view
  | get (column : String)

variable {σ : Type} [Connection σ]

def Table.call (t : Table) (w : World σ) : TableCall → Answer × World σ
  | .isListed =>
    let (r, w) := t.isListed w
    (.of .truth r, w)
  | .primaryKey =>
    let (r, w) := t.primaryKey w
    (.of .names r, w)
  | .addColumn type column default =>
    let (r, w) := t.addColumn type column default w
    (.of (fun _ => .done) r, w)
  | .dropColumn column =>
    let (r, w) := t.dropColumn column w
    (.of (fun _ => .done) r, w)
  | .ensureColumns pairs =>
    let (r, w) := t.ensureColumns pairs w
    (.of (fun added => .names (added.map Ident.name)) r, w)
  | .settings => (.settings t.settings, w)
  | .isAlive =>
    let (alive, w) := w.isAlive
    (.truth alive, w)

def Columns.call (c : Columns) (w : World σ) : ColumnsCall → After σ Columns Answer
  | .refresh =>
    let a := c.refresh w
    ⟨.of (fun _ => .columns a.next) a.result, a.next, a.world⟩
  | .view => ⟨.columns c, c, w⟩
  | .get column => ⟨.column (c.get? column) (c.contains column) (c.isRequired column), c, w⟩

end SqlClient
