import SqlClient.Rendered

/-! # Errors

The causes of failure and their wording. Errors that come from a run carry what was run.
-/
namespace SqlClient

/-- A connection that was lost may be made again; nothing else is worth a second attempt. -/
inductive DriverErrorKind where
  | connectionLost
  | other
  deriving DecidableEq

structure DriverError where
  kind : DriverErrorKind
  message : String
  deriving DecidableEq

def DriverError.isConnectionLost (e : DriverError) : Bool := e.kind = .connectionLost

inductive SchemaFault where
  | emptyVarchar
  | longVarchar (length : Nat)
  | columnExists (column : Ident)
  | columnMissing (column : Ident)
  deriving DecidableEq

inductive PreflightFault where
  | missingColumns (names : List String)
  | nothingToInsert
  | nothingToSet
  deriving DecidableEq

inductive FilterFault where
  | notObject
  | unsupported (key : String)
  deriving DecidableEq

inductive QueryError where
  | connection (source : DriverError) (run : Rendered)
  | driver (source : DriverError) (run : Rendered)
  | schema (table : Ident) (fault : SchemaFault)
  | preflight (table : Ident) (fault : PreflightFault) (run : Rendered)
  | filter (fault : FilterFault)
  deriving DecidableEq

/-- The longest bounded text, in bytes. -/
def maxVarchar : Nat := 256

def SchemaFault.message : SchemaFault → String
  | emptyVarchar => "VARCHAR length must be positive"
  | longVarchar n =>
    "VARCHAR(" ++ Nat.repr n ++ ") exceeds the " ++ Nat.repr maxVarchar ++ " byte limit"
  | columnExists c => "column `" ++ c.name ++ "` already exists"
  | columnMissing c => "column `" ++ c.name ++ "` does not exist"

def PreflightFault.message : PreflightFault → String
  | missingColumns names => "missing required columns " ++ ", ".intercalate names
  | nothingToInsert => "no values to insert"
  | nothingToSet => "no values to set"

def FilterFault.message : FilterFault → String
  | notObject => "a filter must be a JSON object"
  | unsupported key => "unsupported value for filter key `" ++ key ++ "`"

namespace QueryError

/-- A lost connection is told apart from every other error of the driver. -/
def ofDriver (e : DriverError) (run : Rendered) : QueryError :=
  if e.isConnectionLost then connection e run else driver e run

def message : QueryError → String
  | connection e run => "Connection error: " ++ e.message ++ " (sql: " ++ run.sql ++ ")"
  | driver e run => "Driver error: " ++ e.message ++ " (sql: " ++ run.sql ++ ")"
  | schema t f => "Schema error on `" ++ t.name ++ "`: " ++ f.message
  | preflight t f _ => "Preflight error on `" ++ t.name ++ "`: " ++ f.message
  | filter f => "Filter error: " ++ f.message

/-- What was run or was about to run, if the error came from a statement. -/
def run? : QueryError → Option Rendered
  | connection _ run => some run
  | driver _ run => some run
  | preflight _ _ run => some run
  | schema _ _ => none
  | filter _ => none

def binds (e : QueryError) : List Value := (e.run?.map Rendered.binds).getD []

def missing : QueryError → List String
  | preflight _ (.missingColumns names) _ => names
  | _ => []

def source? : QueryError → Option DriverError
  | connection e _ => some e
  | driver e _ => some e
  | _ => none

end QueryError

end SqlClient
