import SqlClient.Connection
import SqlClient.Table

/-! # Reading the catalog

A catalog read that loses the connection makes it again once and reads once more. The catalog is
read anew on every call; only a column set keeps what it has read, until it is refreshed.
-/
namespace SqlClient

variable {σ : Type} [Connection σ]

namespace Table

/-- The error of a catalog read names what was read instead of a text. -/
def readError (what : CatalogRead) (e : DriverError) : QueryError := .ofDriver e (.text what.name)

def readAgain {α : Type} (what : CatalogRead)
    (call : World σ → Except DriverError α × World σ) (w : World σ) :
    Except QueryError α × World σ :=
  let (answer, w) := call w
  (answer.mapError (readError what), w)

def read {α : Type} (t : Table) (what : CatalogRead)
    (call : World σ → Except DriverError α × World σ) (w : World σ) :
    Except QueryError α × World σ :=
  let (answer, w) := call w
  match answer with
  | .ok a => (.ok a, w)
  | .error e =>
    if e.isConnectionLost then
      let (alive, w) := w.isAlive
      let (back, w) := (w.note (.catalogLost what t.name e alive)).reconnect
      if back then readAgain what call w else (.error (readError what e), w)
    else (.error (readError what e), w)

/-- Whether the catalog lists a table of this name, up to ASCII case. -/
def isListed (t : Table) (w : World σ) : Except QueryError Bool × World σ :=
  let (names, w) := t.read .listTables World.listTables w
  (names.map fun names => names.any t.name.isNamed, w)

end Table

/-- The columns of a table as they were read last, by name. -/
structure Columns where
  table : Table
  byName : OrderedMap String ColumnInfo := {}

namespace Columns

/-- Described columns in their order; a repeated name keeps its place and takes the last
description. -/
def ofDescribed (t : Table) (infos : List ColumnInfo) : Columns :=
  ⟨t, .ofList (infos.map fun info => (info.name, info))⟩

def load (t : Table) (w : World σ) : Except QueryError Columns × World σ :=
  let (infos, w) := t.read .describeColumns (fun w => w.describeColumns t.name.name) w
  (infos.map (ofDescribed t), w)

/-- Reads the columns again; if that fails the set stays as it is. -/
def refresh (c : Columns) (w : World σ) : After σ Columns (Except QueryError Unit) :=
  let (loaded, w) := load c.table w
  match loaded with
  | .ok c => ⟨.ok (), c, w⟩
  | .error e => ⟨.error e, c, w⟩

def infos (c : Columns) : List ColumnInfo := c.byName.values

def names (c : Columns) : List String := c.byName.keys

def size (c : Columns) : Nat := c.byName.size

/-- The first column of a name, up to ASCII case. -/
def get? (c : Columns) (name : String) : Option ColumnInfo :=
  (c.byName.entries.find? fun e => Text.sameName e.1 name).map Prod.snd

def contains (c : Columns) (name : String) : Bool := (c.get? name).isSome

def isRequired (c : Columns) (name : String) : Bool := (c.get? name).any ColumnInfo.isRequired

def required (c : Columns) : List String :=
  (c.infos.filter ColumnInfo.isRequired).map ColumnInfo.name

def primaryKey (c : Columns) : List String :=
  (c.infos.filter ColumnInfo.primaryKey).map ColumnInfo.name

end Columns

end SqlClient
