import SqlClient.Command.Delete
import SqlClient.Command.Insert
import SqlClient.Command.Raw
import SqlClient.Command.Select
import SqlClient.Command.Update
import SqlClient.Where.Edit

/-! # Commands

What a statement says, apart from how it is run: a command of one of five kinds, its rendering, and
the changes that its kind has.
-/
namespace SqlClient

inductive Command where
  | select (q : Select)
  | insert (q : Insert)
  | update (q : Update)
  | delete (q : Delete)
  | raw (q : Raw)

namespace Command

def render : Command → Rendered
  | select q => q.render
  | insert q => q.render
  | update q => q.render
  | delete q => q.render
  | raw q => q.run

def change? : Command → Change → Option Command
  | select q, c => (q.change? c).map select
  | insert q, c => (q.change? c).map insert
  | update q, c => (q.change? c).map update
  | delete q, c => (q.change? c).map delete
  | raw q, c => (q.change? c).map raw

def conditions? : Command → Option Conditions
  | select q => some q.conditions
  | update q => some q.conditions
  | delete q => some q.conditions
  | _ => none

def edit (e : Edit) : Command → Command
  | select q => select { q with conditions := q.conditions.edit e }
  | update q => update { q with conditions := q.conditions.edit e }
  | delete q => delete { q with conditions := q.conditions.edit e }
  | c => c

/-- A statement that writes values has to have one. -/
def isReady : Command → Bool
  | insert q => !q.values.isEmpty
  | update q => !q.values.isEmpty
  | _ => true

def table? : Command → Option Ident
  | select q => some q.table
  | insert q => some q.target.name
  | update q => some q.target.name
  | delete q => some q.table
  | raw _ => none

end Command

end SqlClient
