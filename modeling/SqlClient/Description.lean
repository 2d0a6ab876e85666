import SqlClient.Execution
import SqlClient.Text.Quoted

/-! # Descriptions

One-line descriptions of settings, outcomes and executions, for diagnostics.
-/
namespace SqlClient

namespace Description

def truth (b : Bool) : String := if b then "true" else "false"

def option {α : Type} (describe : α → String) : Option α → String
  | none => "None"
  | some a => "Some(" ++ describe a ++ ")"

def fields (name : String) (fs : List (String × String)) : String :=
  name ++ " \x7b " ++ ", ".intercalate (fs.map fun f => f.1 ++ ": " ++ f.2) ++ " \x7d"

end Description

open Description

def settingFields (s : Settings) : List (String × String) :=
  [("dialect", s.dialect.name), ("debug", truth s.debug), ("auto_execute", truth s.autoExecute)]

def Settings.describe (s : Settings) : String := fields "Settings" (settingFields s)

def Settings.describeDatabase (s : Settings) : String :=
  "Database \x7b settings: " ++ s.describe ++ ", .. \x7d"

/-- The rows of an outcome are left out. -/
def Outcome.describe : Outcome → String
  | .rows _ => "Outcome::Rows(..)"
  | .affected n => "Outcome::Affected(" ++ Nat.repr n.toNat ++ ")"

def State.name : State → String
  | .unexecuted => "Unexecuted"
  | .executed => "Executed"
  | .failed => "Failed"
  | .closed => "Closed"

/-- Of the handle only the text is given, of an error only the message. -/
def Execution.describe (x : Execution) : String :=
  fields "Execution" (settingFields x.settings ++
    [("state", x.state.name),
      ("prepared", option (fun h => Text.quoted h.text) x.held),
      ("affected", option (fun n => Nat.repr n.toNat) x.affected),
      ("last_error", option (fun e => Text.quoted e.message) x.lastError)])

end SqlClient
