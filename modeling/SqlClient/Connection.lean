import SqlClient.Cursor
import SqlClient.Event
import SqlClient.Schema.Column

/-! # Connections

The driver behind a connection is a state of any type that answers calls. `World` is that state
with what has been said to it: every call with its answer, and every event logged.
-/
namespace SqlClient

/-- A prepared statement: its number on the connection, and its text. -/
structure Handle where
  number : Nat
  text : String
  deriving DecidableEq

class Connection (σ : Type) where
  prepare : Handle → σ → Except DriverError Unit × σ
  /-- Positions count from one, like the placeholders that they fill. -/
  bind : Handle → Nat → Value → σ → Except DriverError Unit × σ
  execute : Handle → σ → Except DriverError Outcome × σ
  close : Handle → σ → Except DriverError Unit × σ
  isAlive : σ → Bool × σ
  reconnect : σ → Bool × σ
  listTables : σ → Except DriverError (List String) × σ
  /-- A table that does not exist has no columns. -/
  describeColumns : String → σ → Except DriverError (List ColumnInfo) × σ

inductive Exchange where
  | prepare (h : Handle) (answer : Except DriverError Unit)
  | bind (h : Handle) (position : Nat) (v : Value) (answer : Except DriverError Unit)
  | execute (h : Handle) (answer : Except DriverError Outcome)
  | close (h : Handle) (answer : Except DriverError Unit)
  | isAlive (answer : Bool)
  | reconnect (answer : Bool)
  | listTables (answer : Except DriverError (List String))
  | describeColumns (table : String) (answer : Except DriverError (List ColumnInfo))

/-- `history` and `log` begin with what came last. -/
structure World (σ : Type) where
  driver : σ
  /-- How many handles have been asked for. -/
  prepared : Nat := 0
  history : List Exchange := []
  log : List Event := []

/-- What a call leaves behind: its result, that on which it was made, and the world. -/
structure After (σ β α : Type) where
  result : α
  next : β
  world : World σ

namespace World

variable {σ : Type}

def note (w : World σ) (e : Event) : World σ := { w with log := e :: w.log }

def record {α : Type} (w : World σ) (exchange : α → Exchange) (answer : α × σ) : α × World σ :=
  (answer.1, { w with driver := answer.2, history := exchange answer.1 :: w.history })

variable [Connection σ]

/-- Every handle asked for has a number of its own, also one that is refused. -/
def prepare (w : World σ) (sql : String) : Except DriverError Handle × World σ :=
  let h : Handle := ⟨w.prepared + 1, sql⟩
  let (answer, w) :=
    record { w with prepared := w.prepared + 1 } (.prepare h) (Connection.prepare h w.driver)
  (answer.map fun _ => h, w)

def bind (w : World σ) (h : Handle) (position : Nat) (v : Value) :
    Except DriverError Unit × World σ :=
  w.record (.bind h position v) (Connection.bind h position v w.driver)

def execute (w : World σ) (h : Handle) : Except DriverError Outcome × World σ :=
  w.record (.execute h) (Connection.execute h w.driver)

def close (w : World σ) (h : Handle) : Except DriverError Unit × World σ :=
  w.record (.close h) (Connection.close h w.driver)

def isAlive (w : World σ) : Bool × World σ := w.record .isAlive (Connection.isAlive w.driver)

def reconnect (w : World σ) : Bool × World σ :=
  w.record .reconnect (Connection.reconnect w.driver)

def listTables (w : World σ) : Except DriverError (List String) × World σ :=
  w.record .listTables (Connection.listTables w.driver)

def describeColumns (w : World σ) (table : String) :
    Except DriverError (List ColumnInfo) × World σ :=
  w.record (.describeColumns table) (Connection.describeColumns table w.driver)

end World

end SqlClient
