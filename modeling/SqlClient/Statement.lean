import SqlClient.Command
import SqlClient.Schema.Migration

/-! # Statements

A command with its rendering, which is kept until the command changes, and its execution. A result
is read on demand: the statement runs when its result is asked for, and again only after a change
or after it was closed. With automatic execution every change runs it at once.
-/
namespace SqlClient

structure Statement where
  command : Command
  /-- The rendering of the command, once it has been asked for. -/
  cache : Option Rendered := none
  execution : Execution

namespace Statement

def rendered (s : Statement) : Rendered := s.cache.getD s.command.render

def keepRendered (s : Statement) : Statement := { s with cache := some s.rendered }

/-- A copy shares the connection but has run nothing. -/
def clone (s : Statement) : Statement := { s with execution := s.execution.clone }

def autoExecute (s : Statement) (b : Bool) : Statement :=
  { s with execution.settings.autoExecute := b }

def isAutoExecute (s : Statement) : Bool := s.execution.settings.autoExecute

def isReady (s : Statement) : Bool := s.command.isReady

/-- Asks for columns to be added before an insert or update runs. -/
def autoMigrate? (s : Statement) (b : Bool) : Option Statement :=
  match s.command with
  | .insert q => some { s with command := .insert { q with autoMigrate := b } }
  | .update q => some { s with command := .update { q with autoMigrate := b } }
  | _ => none

section Run

variable {σ : Type} [Connection σ]

def migrate (t : Table) (values : OrderedMap Ident Value) (m : Migration) (w : World σ) :
    Except QueryError Unit × World σ :=
  let (added, w) := t.ensureColumns values.entries w
  match added with
  | .error e => (.error e, w)
  | .ok [] => (.ok (), w)
  | .ok _ => (.ok (), w.note (.migrated m t.name))

def preflight (s : Statement) (w : World σ) : Except QueryError Unit × World σ :=
  match s.command with
  | .insert q =>
    if !q.missing.isEmpty then
      (.error (.preflight q.target.name (.missingColumns q.missing) s.rendered), w)
    else if q.values.isEmpty then
      (.error (.preflight q.target.name .nothingToInsert s.rendered), w)
    else if q.autoMigrate then migrate q.target q.values .insert w
    else (.ok (), w)
  | .update q =>
    if q.values.isEmpty then (.error (.preflight q.target.name .nothingToSet s.rendered), w)
    else if q.autoMigrate then migrate q.target q.values .update w
    else (.ok (), w)
  | _ => (.ok (), w)

def execute (s : Statement) (w : World σ) : After σ Statement (Except QueryError Unit) :=
  let s := s.keepRendered
  let (ready, w) := s.preflight w
  match ready with
  | .error e => ⟨.error e, { s with execution := s.execution.fail e }, w⟩
  | .ok () =>
    let a := s.execution.run s.rendered w
    ⟨a.result, { s with execution := a.next }, a.world⟩

def close (s : Statement) (w : World σ) : Statement × World σ :=
  let (x, w) := s.execution.close w
  ({ s with execution := x }, w)

/-- After a change the statement is run again or closed if it executes automatically; if not, its
result is forgotten. An error stays with the execution. -/
def settle (s : Statement) (w : World σ) : Statement × World σ :=
  if s.isAutoExecute then
    if s.isReady then
      let a := s.execute w
      (a.next, a.world)
    else s.close w
  else ({ s with execution := s.execution.reset }, w)

/-- Takes another command, which makes the rendering stale. -/
def update (s : Statement) (c : Command) (w : World σ) : Statement × World σ :=
  settle { s with command := c, cache := none } w

def change? (s : Statement) (c : Change) (w : World σ) : Option (Statement × World σ) :=
  (s.command.change? c).map fun command => s.update command w

/-- A connective is only remembered, an element changes what is run. -/
def edit (s : Statement) (w : World σ) : Edit → Statement × World σ
  | .join c => ({ s with command := s.command.edit (.join c) }, w)
  | .append t => s.update (s.command.edit (.append t)) w

def edits (s : Statement) (es : List Edit) (w : World σ) : Statement × World σ :=
  es.foldl (fun p e => p.1.edit p.2 e) (s, w)

/-- Runs the statement unless it has been run; the failure of a run is given again. -/
def ensureExecuted (s : Statement) (w : World σ) : After σ Statement (Except QueryError Unit) :=
  match s.execution.state with
  | .executed => ⟨.ok (), s, w⟩
  | .failed =>
    match s.execution.lastError with
    | some e => ⟨.error e, s, w⟩
    | none => s.execute w
  | .unexecuted => s.execute w
  | .closed => s.execute w

def read {α : Type} (s : Statement) (reading : Execution → Except QueryError α × Execution)
    (w : World σ) : After σ Statement (Except QueryError α) :=
  let a := s.ensureExecuted w
  match a.result with
  | .error e => ⟨.error e, a.next, a.world⟩
  | .ok () =>
    let (answer, x) := reading a.next.execution
    ⟨answer, { a.next with execution := x }, a.world⟩

def fetch (s : Statement) (f : Fetch) (w : World σ) :
    After σ Statement (Except QueryError (Option Row)) :=
  s.read (fun x => x.fetch f) w

/-- All rows from the first one on, by label. -/
def set (s : Statement) (w : World σ) :
    After σ Statement (Except QueryError (List (OrderedMap String Value))) :=
  s.read (fun x => let (rows, x) := x.all; (rows.map fun rows => rows.map Row.toMap, x)) w

def affectedRows (s : Statement) (w : World σ) : After σ Statement (Except QueryError UInt64) :=
  s.read (fun x => (.ok (x.affected.getD 0), x)) w

/-- How many rows match, for a select, or were touched. A select is counted by a statement of its
own, which leaves it as it is. -/
def rowCount (s : Statement) (w : World σ) : After σ Statement (Except QueryError UInt64) :=
  match s.command with
  | .select q =>
    let (n, w) := s.execution.count q.count w
    ⟨n, s, w⟩
  | .raw q =>
    if q.isSelect then
      let (n, w) := s.execution.count q.count w
      ⟨n, s, w⟩
    else s.affectedRows w
  | _ => s.affectedRows w

def first? (s : Statement) (w : World σ) :
    Option (After σ Statement (Except QueryError (Option Row))) :=
  match s.command with
  | .select q =>
    let (s, w) :=
      if q.limit = some 1 then (s, w) else s.update (.select { q with limit := some 1 }) w
    some (s.fetch (.move .first) w)
  | _ => none

end Run

end Statement

namespace Table

def select (t : Table) : Statement := ⟨.select { table := t.name }, none, { settings := t.settings }⟩

def update (t : Table) : Statement := ⟨.update { target := t }, none, { settings := t.settings }⟩

def delete (t : Table) : Statement := ⟨.delete { table := t.name }, none, { settings := t.settings }⟩

/-- An insert knows the columns that the table, if it exists, asks for now. -/
def insert {σ : Type} [Connection σ] (t : Table) (w : World σ) :
    Except QueryError Statement × World σ :=
  let (columns, w) := t.columnsIfListed w
  (columns.map fun columns =>
    ⟨.insert { target := t, required := (columns.map Columns.required).getD [] }, none,
      { settings := t.settings }⟩, w)

end Table

/-- A statement written by hand. -/
def Settings.query (settings : Settings) (sql : String) : Statement :=
  ⟨.raw ⟨.text sql⟩, none, { settings }⟩

end SqlClient
