import SqlClient.Connection

/-! # Execution

How a statement is run: its prepared handle is kept for the next run of the same text, a lost
connection is made again once, and the cursor of the last run is read row by row. A failure is kept
until the next run or change.
-/
namespace SqlClient

inductive State where
  | unexecuted
  | executed
  | failed
  | closed
  deriving DecidableEq

structure Execution where
  settings : Settings
  state : State := .unexecuted
  held : Option Handle := none
  cursor : Option Cursor := none
  /-- The cursor has not been moved yet. -/
  fresh : Bool := false
  affected : Option UInt64 := none
  lastRun : Option Rendered := none
  lastError : Option QueryError := none

/-- Which row is asked for; the current one is the first if no row has been read yet. -/
inductive Fetch where
  | current
  | move (m : Move)
  deriving DecidableEq

namespace Execution

/-- A copy has the settings, and neither a handle nor a result. -/
def clone (x : Execution) : Execution := { settings := x.settings }

def fail (x : Execution) (e : QueryError) : Execution :=
  { x with cursor := none, fresh := false, state := .failed, lastError := some e }

/-- Forgets the result or failure of the last run, but keeps the handle. -/
def reset (x : Execution) : Execution :=
  { x with
    cursor := none, fresh := false, affected := none, lastError := none, state := .unexecuted }

/-- A run begins without the result of an earlier one. -/
def begin (x : Execution) (r : Rendered) : Execution :=
  { x with cursor := none, fresh := false, affected := none, lastError := none, lastRun := some r }

def succeed (x : Execution) : Outcome → Execution
  | .rows c => { x with cursor := some c, fresh := true, state := .executed }
  | .affected n => { x with affected := some n, state := .executed }

section Run

variable {σ : Type} [Connection σ]

/-- Closes the handle that is held. A failure of that is only logged. -/
def discard (x : Execution) (w : World σ) : Execution × World σ :=
  match x.held with
  | none => (x, w)
  | some h =>
    let (answer, w) := w.close h
    match answer with
    | .ok () => ({ x with held := none }, w)
    | .error e => ({ x with held := none }, w.note (.closeFailed h.text e))

def prepare (x : Execution) (sql : String) (w : World σ) :
    After σ Execution (Except DriverError Handle) :=
  let (x, w) := x.discard w
  let (answer, w) := w.prepare sql
  match answer with
  | .ok h => ⟨.ok h, { x with held := some h }, w⟩
  | .error e => ⟨.error e, x, w⟩

/-- The handle for a text: the one that is held if its text is the same, else a new one. -/
def acquire (x : Execution) (sql : String) (w : World σ) :
    After σ Execution (Except DriverError Handle) :=
  match x.held with
  | some h => if h.text = sql then ⟨.ok h, x, w⟩ else x.prepare sql w
  | none => x.prepare sql w

/-- Binds values to consecutive positions, up to the first failure. -/
def bindFrom (h : Handle) : Nat → List Value → World σ → Except DriverError Unit × World σ
  | _, [], w => (.ok (), w)
  | position, v :: vs, w =>
    let (answer, w) := w.bind h position v
    match answer with
    | .ok () => bindFrom h (position + 1) vs w
    | .error e => (.error e, w)

def perform (h : Handle) (r : Rendered) (w : World σ) : Except DriverError Outcome × World σ :=
  let (bound, w) := bindFrom h 1 r.binds w
  match bound with
  | .error e => (.error e, w)
  | .ok () => w.execute h

def attempt (x : Execution) (r : Rendered) (w : World σ) :
    After σ Execution (Except DriverError Outcome) :=
  let a := x.acquire r.sql w
  match a.result with
  | .error e => ⟨.error e, a.next, a.world⟩
  | .ok h =>
    let (answer, w) := perform h r a.world
    ⟨answer, a.next, w⟩

/-- What is left of an attempt that is not tried again: no handle, and the error with its text and
values. -/
def giveUp (x : Execution) (e : DriverError) (r : Rendered) (w : World σ) :
    After σ Execution (Except QueryError Outcome) :=
  let (x, w) := x.discard w
  ⟨.error (.ofDriver e r), x, w⟩

/-- The second and last attempt, on a connection that has been made again. -/
def retry (x : Execution) (r : Rendered) (w : World σ) :
    After σ Execution (Except QueryError Outcome) :=
  let a := x.attempt r w
  match a.result with
  | .ok o => ⟨.ok o, a.next, a.world⟩
  | .error e => a.next.giveUp e r a.world

/-- Makes a lost connection again and tries once more. Whether the driver believes to be alive is
only logged. -/
def recover (x : Execution) (e : DriverError) (r : Rendered) (w : World σ) :
    After σ Execution (Except QueryError Outcome) :=
  let (alive, w) := w.isAlive
  let (x, w) := x.discard (w.note (.connectionLost r.sql e alive))
  let (back, w) := w.reconnect
  if back then x.retry r w else ⟨.error (.ofDriver e r), x, w⟩

def runWithRetry (x : Execution) (r : Rendered) (w : World σ) :
    After σ Execution (Except QueryError Outcome) :=
  let a := x.attempt r (w.note (.executing x.settings.debug r.sql))
  match a.result with
  | .ok o => ⟨.ok o, a.next, a.world⟩
  | .error e =>
    if e.isConnectionLost then a.next.recover e r a.world else a.next.giveUp e r a.world

def run (x : Execution) (r : Rendered) (w : World σ) : After σ Execution (Except QueryError Unit) :=
  let a := (x.begin r).runWithRetry r w
  match a.result with
  | .ok o => ⟨.ok (), a.next.succeed o, a.world⟩
  | .error e => ⟨.error e, a.next.fail e, a.world⟩

def close (x : Execution) (w : World σ) : Execution × World σ :=
  let (x, w) := discard { x with cursor := none, fresh := false } w
  ({ x with state := .closed }, w)

end Run

/-- The move that a fetch makes; none for the current row once a row has been read. -/
def moveOf (fresh : Bool) : Fetch → Option Move
  | .current => if fresh then some .next else none
  | .move m => some m

/-- The row under the cursor after a move. An error of the cursor is a failure of the run. -/
def fetch (x : Execution) (f : Fetch) : Except QueryError (Option Row) × Execution :=
  match x.cursor with
  | none => (.ok none, x)
  | some c =>
    match moveOf x.fresh f with
    | none => (.ok c.current, { x with fresh := false })
    | some m =>
      match c.move m with
      | (.ok true, c) => (.ok c.current, { x with cursor := some c, fresh := false })
      | (.ok false, c) => (.ok none, { x with cursor := some c, fresh := false })
      | (.error e, _) =>
        let e := QueryError.ofDriver e (x.lastRun.getD .empty)
        (.error e, x.fail e)

/-- The rows from the next one on, as many as `budget` allows. -/
def remaining : Nat → Execution → Except QueryError (List Row) × Execution
  | 0, x => (.ok [], x)
  | budget + 1, x =>
    match x.fetch (.move .next) with
    | (.error e, x) => (.error e, x)
    | (.ok none, x) => (.ok [], x)
    | (.ok (some row), x) =>
      match remaining budget x with
      | (.error e, x) => (.error e, x)
      | (.ok rows, x) => (.ok (row :: rows), x)

def rowBound (x : Execution) : Nat :=
  match x.cursor with
  | none => 0
  | some c => c.set.size

/-- All rows, whatever has been read before. No more of them are left than the cursor holds. -/
def all (x : Execution) : Except QueryError (List Row) × Execution :=
  match x.fetch (.move .first) with
  | (.error e, x) => (.error e, x)
  | (.ok none, x) => (.ok [], x)
  | (.ok (some row), x) =>
    match remaining x.rowBound x with
    | (.error e, x) => (.error e, x)
    | (.ok rows, x) => (.ok (row :: rows), x)

/-- The first cell of the first row, as an integer; a cell that is none counts as zero, and so does
a negative one. -/
def countOf (row : Option Row) : UInt64 :=
  let n := ((row.bind fun r => r.at? 0).bind Value.int64?).getD 0
  (Integer.toUInt64? n.toInt).getD 0

/-- Runs a counting statement on a copy and reads its answer. -/
def count {σ : Type} [Connection σ] (x : Execution) (r : Rendered) (w : World σ) :
    Except QueryError UInt64 × World σ :=
  let a := x.clone.run r w
  match a.result with
  | .error e => (.error e, a.world)
  | .ok () =>
    match a.next.fetch (.move .first) with
    | (.error e, _) => (.error e, a.world)
    | (.ok row, scratch) =>
      let (_, w) := scratch.close a.world
      (.ok (countOf row), w)

end Execution

end SqlClient
