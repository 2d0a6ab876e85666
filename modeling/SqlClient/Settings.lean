import SqlClient.Document

/-! # Settings

What every statement made from a database inherits, and how settings are read from a document.
-/
namespace SqlClient

inductive Dialect where
  | mySql
  | sqlite
  deriving DecidableEq

namespace Dialect

/-- A database kept in a file has no bounded text type. -/
def hasBoundedVarchar : Dialect → Bool
  | mySql => true
  | sqlite => false

def name : Dialect → String
  | mySql => "MySql"
  | sqlite => "Sqlite"

def key : Dialect → String
  | mySql => "mysql"
  | sqlite => "sqlite"

def ofKey? (key : String) : Option Dialect :=
  if key = "mysql" then some mySql else if key = "sqlite" then some sqlite else none

theorem ofKey?_key (d : Dialect) : ofKey? d.key = some d := by
  cases d <;> decide

/-- A dialect is its key, or the only member of an object, with null as its value. -/
def ofDocument? : Document → Option Dialect
  | .text key => ofKey? key
  | .object [(key, .null)] => ofKey? key
  | _ => none

end Dialect

structure Settings where
  dialect : Dialect := .mySql
  /-- Log statements one level higher. -/
  debug : Bool := false
  /-- Run a statement again after every change of it. -/
  autoExecute : Bool := false
  deriving DecidableEq

namespace Settings

def truth? : Document → Option Bool
  | .bool b => some b
  | _ => none

/-- One member of an object; members of other names do not matter. -/
def readMember? (s : Settings) (key : String) (d : Document) : Option Settings :=
  if key = "dialect" then (Dialect.ofDocument? d).map fun x => { s with dialect := x }
  else if key = "debug" then (truth? d).map fun b => { s with debug := b }
  else if key = "auto_execute" then (truth? d).map fun b => { s with autoExecute := b }
  else some s

/-- Settings from an object by name or from a list in the order of the fields. What is missing has
its default. -/
def ofDocument? : Document → Option Settings
  | .object members => members.foldlM (fun s m => s.readMember? m.1 m.2) {}
  | .array items =>
    if items.length ≤ 3 then
      (["dialect", "debug", "auto_execute"].zip items).foldlM (fun s m => s.readMember? m.1 m.2) {}
    else none
  | _ => none

def toDocument (s : Settings) : Document :=
  .ofMembers
    [("dialect", .text s.dialect.key), ("debug", .bool s.debug),
      ("auto_execute", .bool s.autoExecute)]

end Settings

end SqlClient
