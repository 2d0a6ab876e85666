import SqlClient.Session

/-! # A scripted connection

A connection whose answers are queued beforehand, for trying out sessions. Every kind of call takes
the front of its queue, and succeeds when the queue is empty.
-/
namespace SqlClient

inductive Scripted.Reply where
  | outcome (o : Outcome)
  | fail (e : DriverError)

/-- What a run answers, after a table has been put into the catalog or taken out of it. -/
structure Scripted.Response where
  table : Option (String × Option (List ColumnInfo)) := none
  reply : Scripted.Reply

/-- A queued fault that is none lets its call succeed. -/
structure Scripted where
  tables : List (String × List ColumnInfo) := []
  responses : List Scripted.Response := []
  prepareFaults : List (Option DriverError) := []
  bindFaults : List (Option DriverError) := []
  closeFaults : List (Option DriverError) := []
  catalogFaults : List (Option DriverError) := []
  reconnects : List Bool := []
  dead : Bool := false
  staysAlive : Bool := false

namespace Scripted

/-- Takes the table of exactly that name out of the catalog and puts the new one at its end. -/
def setTable (d : Scripted) (name : String) (columns : Option (List ColumnInfo)) : Scripted :=
  { d with
    tables := d.tables.filter (fun t => t.1 ≠ name) ++ (columns.map fun cs => (name, cs)).toList }

/-- A lost connection is dead from then on, unless the script says otherwise. -/
def raise (d : Scripted) (e : DriverError) : Scripted :=
  if e.isConnectionLost && !d.staysAlive then { d with dead := true } else d

/-- The answer of a call whose queue has the given front. -/
def answer {α : Type} (d : Scripted) (fault : Option (Option DriverError)) (a : α) :
    Except DriverError α × Scripted :=
  match fault with
  | some (some e) => (.error e, d.raise e)
  | _ => (.ok a, d)

def reply (d : Scripted) : Reply → Except DriverError Outcome × Scripted
  | .outcome o => (.ok o, d)
  | .fail e => (.error e, d.raise e)

/-- Without a response a select finds no rows and anything else touches none. -/
def outcomeOf (h : Handle) : Outcome :=
  if "SELECT".toList.isPrefixOf h.text.toList then .rows ⟨⟨[], [], 0⟩, []⟩ else .affected 0

def run (d : Scripted) (h : Handle) : Except DriverError Outcome × Scripted :=
  match d.responses with
  | [] => (.ok (outcomeOf h), d)
  | r :: rest =>
    let d := { d with responses := rest }
    let d := match r.table with
      | some (name, columns) => d.setTable name columns
      | none => d
    d.reply r.reply

instance : Connection Scripted where
  prepare _ d := answer { d with prepareFaults := d.prepareFaults.tail } d.prepareFaults.head? ()
  bind _ _ _ d := answer { d with bindFaults := d.bindFaults.tail } d.bindFaults.head? ()
  execute h d := d.run h
  close _ d := answer { d with closeFaults := d.closeFaults.tail } d.closeFaults.head? ()
  isAlive d := (!d.dead, d)
  reconnect d :=
    let back := d.reconnects.head?.getD true
    (back, { d with reconnects := d.reconnects.tail, dead := d.dead && !back })
  listTables d :=
    answer { d with catalogFaults := d.catalogFaults.tail } d.catalogFaults.head?
      (d.tables.map Prod.fst)
  describeColumns name d :=
    answer { d with catalogFaults := d.catalogFaults.tail } d.catalogFaults.head?
      (((d.tables.find? fun t => Text.sameName t.1 name).map Prod.snd).getD [])

inductive Queue where
  | prepare
  | bind
  | close
  | catalog
  deriving DecidableEq

/-- What is written into the script while a session goes on. -/
inductive Line where
  | respond (rs : List Response)
  | fail (q : Queue) (faults : List (Option DriverError))
  | reconnects (results : List Bool)
  | staysAlive (b : Bool)
  | setTable (name : String) (columns : Option (List ColumnInfo))

def write (d : Scripted) : Line → Scripted
  | .respond rs => { d with responses := d.responses ++ rs }
  | .fail .prepare fs => { d with prepareFaults := d.prepareFaults ++ fs }
  | .fail .bind fs => { d with bindFaults := d.bindFaults ++ fs }
  | .fail .close fs => { d with closeFaults := d.closeFaults ++ fs }
  | .fail .catalog fs => { d with catalogFaults := d.catalogFaults ++ fs }
  | .reconnects rs => { d with reconnects := d.reconnects ++ rs }
  | .staysAlive b => { d with staysAlive := b }
  | .setTable name columns => d.setTable name columns

end Scripted

def Session.write (s : Session Scripted) (l : Scripted.Line) : Answer × Session Scripted :=
  (.done, { s with world.driver := s.world.driver.write l })

end SqlClient
