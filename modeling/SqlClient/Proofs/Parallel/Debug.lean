import SqlClient.Proofs.Parallel.Statement

/-! # How statements are logged

The same execution, table, column set or statement with its runs logged at another level. Answers
that are read from a statement do not show its settings.
-/
namespace SqlClient

def Settings.withDebug (b : Bool) (s : Settings) : Settings := { s with debug := b }

/-- The execution with statements logged at another level. -/
def Execution.withDebug (b : Bool) (x : Execution) : Execution :=
  { x with settings := x.settings.withDebug b }

def Table.withDebug (b : Bool) (t : Table) : Table := { t with settings := t.settings.withDebug b }

def Columns.withDebug (b : Bool) (c : Columns) : Columns := { c with table := c.table.withDebug b }

/-- A command that writes values keeps the settings of its table. -/
def Command.withDebug (b : Bool) : Command → Command
  | insert q => insert { q with target := q.target.withDebug b }
  | update q => update { q with target := q.target.withDebug b }
  | c => c

def Answer.withDebug (b : Bool) : Answer → Answer
  | settings s => settings (s.withDebug b)
  | columns c => columns (c.withDebug b)
  | a => a

def Statement.withDebug (b : Bool) (s : Statement) : Statement :=
  { s with command := s.command.withDebug b, execution := s.execution.withDebug b }

variable {b : Bool}

theorem Command.withDebug_eq (c : Command) : c.withDebug b = c.mapDebug fun _ => b := by
  cases c <;> rfl

theorem Command.withDebug_table? (c : Command) : (c.withDebug b).table? = c.table? := by
  cases c <;> rfl

theorem rel_eq_iff {α : Type} {p q : Option α} : Option.Rel Eq p q ↔ p = q := by
  constructor
  · rintro (rfl | _) <;> rfl
  · rintro rfl
    cases p with
    | none => exact .none
    | some a => exact .some rfl

theorem Execution.alike_withDebug_iff {x y : Execution} :
    x.Alike (fun _ => b) Eq y ↔ y = x.withDebug b := by
  constructor
  · intro h
    cases h with
    | recast hk =>
      rw [← rel_eq_iff.mp hk]
      rfl
  · rintro rfl
    exact .recast (rel_eq_iff.mpr rfl)

namespace Statement

theorem alike_withDebug_iff {s t : Statement} :
    s.Alike (fun _ => b) Eq t ↔ t = s.withDebug b := by
  constructor
  · intro h
    cases h with
    | recast hx =>
      rw [Execution.alike_withDebug_iff.mp hx, ← s.command.withDebug_eq]
      rfl
  · rintro rfl
    unfold withDebug
    rw [Command.withDebug_eq]
    exact .recast (Execution.alike_withDebug_iff.mpr rfl)

theorem withDebug_rendered (s : Statement) (b : Bool) : (s.withDebug b).rendered = s.rendered :=
  (alike_withDebug_iff.mpr rfl : s.Alike (fun _ => b) Eq (s.withDebug b)).rendered

end Statement

/-! ## Answers that show no settings -/

theorem Answer.of_withDebug {α : Type} {answer : α → Answer}
    (ha : ∀ a, (answer a).withDebug b = answer a) (r : Except QueryError α) :
    (Answer.of answer r).withDebug b = Answer.of answer r := by
  cases r with
  | error e => rfl
  | ok a => exact ha a

theorem TreeCall.reply_withDebug (groups : String → Option Conditions) (here : Conditions)
    (c : TreeCall) :
    (c.reply groups here).answer.withDebug b = (c.reply groups here).answer := by
  cases c with
  | groupOf slot =>
    rw [reply]
    cases groups slot <;> rfl
  | filterDocument d =>
    rw [reply]
    cases Filter.ofDocument d <;> rfl
  | _ =>
    rw [reply]
    rfl

namespace Statement

variable {σ : Type} [Connection σ] {groups : String → Option Conditions} {s : Statement}
  {w : World σ} {a : After σ Statement Answer}

theorem tree?_withDebug {c : TreeCall} (ha : s.tree? groups c w = some a) :
    a.result.withDebug b = a.result := by
  unfold tree? at ha
  split at ha
  · cases ha
  · cases ha
    exact c.reply_withDebug groups _

theorem call?_withDebug {c : StatementCall} (ha : s.call? groups w c = some a) :
    a.result.withDebug b = a.result := by
  cases c with
  | tree c => exact tree?_withDebug ha
  | access acc =>
    cases ha
    cases acc <;> exact Answer.of_withDebug (fun _ => rfl) _
  | rowCount =>
    cases ha
    exact Answer.of_withDebug (fun _ => rfl) _
  | execute =>
    cases ha
    exact Answer.of_withDebug (fun _ => rfl) _
  | first =>
    obtain ⟨f, -, rfl⟩ := Option.map_eq_some_iff.mp ha
    exact Answer.of_withDebug (fun _ => rfl) _
  | change | autoMigrate =>
    obtain ⟨p, -, rfl⟩ := Option.map_eq_some_iff.mp ha
    rfl
  | close | render | autoExecute | isAutoExecute | isReady =>
    cases ha
    rfl
  | requiredColumns | missingColumns =>
    unfold call? at ha
    dsimp only at ha
    split at ha
    · cases ha
      rfl
    · cases ha

end Statement

end SqlClient
