import SqlClient.Error
import SqlClient.Settings

/-! # Log events

What is logged, with the level, the message and the fields of each event.
-/
namespace SqlClient

inductive Level where
  | trace
  | debug
  | info
  | warn
  deriving DecidableEq

def Level.name : Level → String
  | trace => "TRACE"
  | debug => "DEBUG"
  | info => "INFO"
  | warn => "WARN"

inductive CatalogRead where
  | listTables
  | describeColumns
  deriving DecidableEq

def CatalogRead.name : CatalogRead → String
  | listTables => "list tables"
  | describeColumns => "describe columns"

/-- The statements that add columns on their own. -/
inductive Migration where
  | insert
  | update
  deriving DecidableEq

def Migration.name : Migration → String
  | insert => "insert"
  | update => "update"

inductive Event where
  | created (settings : Settings)
  | executing (debug : Bool) (sql : String)
  | connectionLost (sql : String) (e : DriverError) (alive : Bool)
  | closeFailed (sql : String) (e : DriverError)
  | catalogLost (what : CatalogRead) (table : Ident) (e : DriverError) (alive : Bool)
  | addingColumn (table column : Ident) (sql : String)
  | droppingColumn (table column : Ident) (sql : String)
  | migrated (m : Migration) (table : Ident)
  | mismatchedLengths (columns values : Nat)
  deriving DecidableEq

namespace Event

def truth (b : Bool) : String := if b then "true" else "false"

def level : Event → Level
  | created _ => .debug
  | executing debug _ => if debug then .debug else .trace
  | connectionLost .. => .warn
  | closeFailed .. => .debug
  | catalogLost .. => .warn
  | addingColumn .. => .info
  | droppingColumn .. => .info
  | migrated .. => .info
  | mismatchedLengths .. => .warn

def message : Event → String
  | created _ => "database handle created"
  | executing .. => "executing statement"
  | connectionLost .. => "connection lost, reconnecting once"
  | closeFailed .. => "ignoring failure while closing statement"
  | catalogLost what .. => "connection lost during " ++ what.name ++ ", reconnecting once"
  | addingColumn .. => "adding column"
  | droppingColumn .. => "dropping column"
  | migrated m _ => "migrated columns before " ++ m.name
  | mismatchedLengths .. => "where_matches_columns called with mismatched lengths"

def fields : Event → List (String × String)
  | created s => [("dialect", s.dialect.name), ("auto_execute", truth s.autoExecute)]
  | executing _ sql => [("sql", sql)]
  | connectionLost sql e alive => [("sql", sql), ("error", e.message), ("alive", truth alive)]
  | closeFailed sql e => [("sql", sql), ("error", e.message)]
  | catalogLost _ t e alive =>
    [("table", t.name), ("error", e.message), ("alive", truth alive)]
  | addingColumn t c sql => [("table", t.name), ("column", c.name), ("sql", sql)]
  | droppingColumn t c sql => [("table", t.name), ("column", c.name), ("sql", sql)]
  | migrated _ t => [("table", t.name)]
  | mismatchedLengths columns values =>
    [("columns", Nat.repr columns), ("values", Nat.repr values)]

end Event

end SqlClient
