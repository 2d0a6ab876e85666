import SqlClient.Session.TreeCall
import SqlClient.Statement

/-! # Calls on a statement

Everything that can be asked of a statement: to change it, to run it, and to read its result.
-/
namespace SqlClient

inductive Accessor where
  | row
  | rowFirst
  | rowLast
  | rowAt (n : Nat)
  | map
  | set
  | rowStrings
  | mapStrings
  | setStrings
  | affectedRows
  deriving DecidableEq

inductive StatementCall where
  | change (c : Change)
  | tree (c : TreeCall)
  | access (a : Accessor)
  | rowCount
  | first
  | execute
  | close
  | render
  | autoExecute (b : Bool)
  | isAutoExecute
  | isReady
  | autoMigrate (b : Bool)
  | requiredColumns
  | missingColumns

namespace Statement

variable {σ : Type} [Connection σ]

/-- A call as a session makes it: its answer in place of its result. -/
def answered {α : Type} (answer : α → Answer) (a : After σ Statement (Except QueryError α)) :
    After σ Statement Answer :=
  ⟨.of answer a.result, a.next, a.world⟩

def access (s : Statement) (w : World σ) : Accessor → After σ Statement Answer
  | .row => answered .row (s.fetch (.move .next) w)
  | .rowFirst => answered .row (s.fetch (.move .first) w)
  | .rowLast => answered .row (s.fetch (.move .last) w)
  | .rowAt n => answered .row (s.fetch (.move (.absolute n)) w)
  | .map => answered (fun r => .map (r.map Row.toMap)) (s.fetch .current w)
  | .set => answered .maps (s.set w)
  | .rowStrings => answered (fun r => .strings (r.map Row.toStrings)) (s.fetch (.move .next) w)
  | .mapStrings => answered (fun r => .stringMap (r.map Row.toStringMap)) (s.fetch .current w)
  | .setStrings =>
    answered (fun ms => .stringMaps (ms.map fun m => m.map Value.text?)) (s.set w)
  | .affectedRows => answered .count (s.affectedRows w)

/-- Events of a call come before what the statement does because of it. -/
def tree? (groups : String → Option Conditions) (s : Statement) (c : TreeCall) (w : World σ) :
    Option (After σ Statement Answer) :=
  match s.command.conditions? with
  | none => none
  | some here =>
    let r := c.reply groups here
    let (s, w) := s.edits r.edits (r.events.foldl World.note w)
    some ⟨r.answer, s, w⟩

def call? (groups : String → Option Conditions) (s : Statement) (w : World σ) :
    StatementCall → Option (After σ Statement Answer)
  | .change c => (s.change? c w).map fun (s, w) => ⟨.done, s, w⟩
  | .tree c => s.tree? groups c w
  | .access a => some (s.access w a)
  | .rowCount => some (answered .count (s.rowCount w))
  | .first => (s.first? w).map (answered .row)
  | .execute => some (answered (fun _ => .done) (s.execute w))
  | .close => let (s, w) := s.close w; some ⟨.done, s, w⟩
  | .render => some ⟨.rendering s.rendered, s.keepRendered, w⟩
  | .autoExecute b => some ⟨.done, s.autoExecute b, w⟩
  | .isAutoExecute => some ⟨.truth s.isAutoExecute, s, w⟩
  | .isReady => some ⟨.truth s.isReady, s, w⟩
  | .autoMigrate b => (s.autoMigrate? b).map fun s => ⟨.done, s, w⟩
  | .requiredColumns =>
    match s.command with
    | .insert q => some ⟨.names q.required, s, w⟩
    | _ => none
  | .missingColumns =>
    match s.command with
    | .insert q => some ⟨.names q.missing, s, w⟩
    | _ => none

end Statement

end SqlClient
