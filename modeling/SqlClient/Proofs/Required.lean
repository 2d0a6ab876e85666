import SqlClient.Proofs.Work
import SqlClient.Scripted

/-! # Required columns

An insert is held back while it lacks a column that its table requires, or has no value at all. What
it requires has been read from the catalog when it was made, and calls on it do not change that.
-/
namespace SqlClient

/-- The text of the handle that a call prepares, binds or executes. -/
def Exchange.runs? : Exchange → Option String
  | prepare h _ => some h.text
  | bind h _ _ _ => some h.text
  | execute h _ => some h.text
  | _ => none

namespace Execution

variable {r : Rendered} {n m : Nat} {held kept : Option Handle} {h : Handle}
  {calls : List Exchange}

theorem Tried.runs {answer : Except DriverError Outcome} (ht : Tried h r calls answer) :
    ∃ c ∈ calls, c.runs? = some h.text := by
  cases ht with
  | refused hb =>
    generalize r.binds = vs at hb
    cases hb with
    | refused n v vs e => exact ⟨_, List.mem_cons_self, rfl⟩
    | next _ => exact ⟨_, List.mem_cons_self, rfl⟩
  | executed answer _ => exact ⟨_, List.mem_append_right _ List.mem_cons_self, rfl⟩

theorem Attempted.runs {answer : Except DriverError Outcome}
    (ha : Attempted r n held kept calls answer m) : ∃ c ∈ calls, c.runs? = some r.sql := by
  cases ha with
  | reused _ htext ht =>
    rw [← htext]
    exact ht.runs
  | unprepared _ _ => exact ⟨_, List.mem_append_right _ List.mem_cons_self, rfl⟩
  | prepared _ _ _ => exact ⟨_, List.mem_append_right _ List.mem_cons_self, rfl⟩

theorem Ran.runs {first : Except DriverError Outcome} {back : Option Bool}
    {second : Option (Except DriverError Outcome)}
    (hr : Ran r n held first back second kept calls m) : ∃ c ∈ calls, c.runs? = some r.sql := by
  cases hr with
  | answered ha => exact ha.runs
  | failed ha _ _ | refused _ ha _ _ | recovered _ ha _ _ _ | gaveUp _ ha _ _ _ _ =>
    obtain ⟨c, hc, htext⟩ := ha.runs
    exact ⟨c, by simp [hc], htext⟩

theorem ofDriver_ne_preflight (e : DriverError) (t : Ident) (f : PreflightFault) (run : Rendered) :
    QueryError.ofDriver e r ≠ .preflight t f run := by
  rw [ofDriver_eq]
  cases e.kind <;> exact nofun

section Spec

variable {σ : Type} [Connection σ]

theorem close_cases (x : Execution) (w : World σ) :
    (x.close w).1.state = .closed ∧ (x.close w).1.held = none ∧ (x.close w).1.cursor = none ∧
      ∃ closing, Discarded x.held closing ∧ w.Said closing (x.close w).2 := by
  obtain ⟨closing, hd, hs, -⟩ := discard_world { x with cursor := none, fresh := false } w
  refine ⟨rfl, x.close_held w, ?_, closing, hd, hs⟩
  unfold close
  dsimp only
  rw [discard_next]

end Spec

end Execution

namespace Insert

variable {q : Insert}

theorem missing_eq (q : Insert) :
    q.missing = q.required.filter fun name =>
      ∀ column ∈ q.values.keys, Text.sameName column.name name = false := by
  unfold missing
  refine List.filter_congr fun name _ => ?_
  rw [Bool.eq_iff_iff]
  simp [Ident.isNamed]

theorem fault?_of_incomplete (h : q.missing ≠ [] ∨ q.values.isEmpty = true) :
    (Command.insert q).fault? =
      some (if q.missing = [] then .nothingToInsert else .missingColumns q.missing) := by
  dsimp only [Command.fault?]
  by_cases hm : q.missing = []
  · have hempty : q.values.isEmpty = true := h.resolve_left fun hne => hne hm
    simp [hm, hempty]
  · simp [hm]

theorem fault?_of_complete (hm : q.missing = []) (hv : q.values.isEmpty = false) :
    (Command.insert q).fault? = none := by
  simp [Command.fault?, hm, hv]

end Insert

namespace Command

/-- The table that an insert writes to, and the columns that it has to give. -/
def demand? : Command → Option (Table × List String)
  | insert q => some (q.target, q.required)
  | _ => none

theorem kept_demand? : Kept demand? where
  edit c e := by cases c <;> rfl
  change {c d ch} h := by
    cases c with
    | select q | delete q | raw q | update q =>
      obtain ⟨q', -, rfl⟩ := Option.map_eq_some_iff.mp h
      rfl
    | insert q =>
      obtain ⟨q', hq, rfl⟩ := Option.map_eq_some_iff.mp h
      cases ch <;> cases hq <;> rfl
  limited _ _ := rfl
  inserting _ _ := rfl
  updating _ _ := rfl

end Command

namespace Statement

variable {s : Statement} {calls : List StatementCall}

/-- What an insert requires has been read from the catalog: nothing, if its table was not there. -/
theorem reached_demand (h : Reached calls s) :
    ∀ t required, s.command.demand? = some (t, required) →
      ∃ columns reads, t.Looked (.ok columns) reads ∧
        required = (columns.map Columns.required).getD [] := by
  induction h with
  -- Only here the catalog is read; every call keeps what is demanded.
  | @insert _ _ t w s h =>
    obtain ⟨reads, -, hlooked⟩ := t.columnsIfListed_looked w
    unfold Table.insert at h
    dsimp only at h
    generalize (t.columnsIfListed w).1 = columns at h hlooked
    cases columns with
    | error e => cases h
    | ok columns =>
      cases h
      intro t' required hd
      cases hd
      exact ⟨columns, reads, hlooked, rfl⟩
  | clone _ ih => exact ih
  | call _ _ hc ih =>
    rw [call?_command hc, Command.kept_demand?.after]
    exact ih
  | _ => exact fun t required hd => nomatch hd

section Run

variable {σ : Type} [Connection σ]

/-- An execution that fails without a call of any kind. The statement keeps all but its result. -/
structure Refused (s : Statement) (w : World σ) (e : QueryError)
    (a : After σ Statement (Except QueryError Unit)) : Prop where
  result : a.result = .error e
  world : a.world = w
  command : a.next.command = s.command
  rendered : a.next.rendered = s.rendered
  execution : a.next.execution = s.execution.fail e
  held : a.next.execution.held = s.execution.held

theorem execute_of_fault {t : Table} {f : PreflightFault} (ht : s.command.target? = some t)
    (hf : s.command.fault? = some f) (w : World σ) :
    s.Refused w (.preflight t.name f s.rendered) (s.execute w) := by
  unfold execute
  dsimp only
  rcases s.keepRendered.preflight_cases w with ⟨u, g, hu, hg, hp⟩ | ⟨hg, -⟩
  · cases ht.symm.trans hu
    cases hf.symm.trans hg
    rw [hp]
    exact ⟨rfl, rfl, rfl, rfl, rfl, rfl⟩
  · cases hf.symm.trans hg

theorem execute_of_no_fault (hf : s.command.fault? = none) (hm : s.command.migrates = false)
    (w : World σ) :
    (s.execute w).result = (s.execution.run s.rendered w).result ∧
      (s.execute w).world = (s.execution.run s.rendered w).world := by
  unfold execute
  dsimp only
  rcases s.keepRendered.preflight_cases w with
    ⟨u, g, -, hg, -⟩ | ⟨-, ⟨_, _, _, -, -, hyes, -⟩ | ⟨-, hp⟩⟩
  · cases hf.symm.trans hg
  · cases hm.symm.trans hyes
  · rw [hp]
    exact ⟨rfl, rfl⟩

theorem change?_closes {change : Change} {t : Statement} {w v : World σ}
    (ha : s.isAutoExecute = true) (ht : s.change? change w = some (t, v))
    (hready : t.command.isReady = false) :
    t.execution = (s.execution.close w).1 ∧ v = (s.execution.close w).2 := by
  obtain ⟨c, hc, hu⟩ := Option.map_eq_some_iff.mp ht
  have hcommand : t.command = c := by
    rw [← update_command s c w, hu]
  have hunready : ¬ ({ s with command := c, cache := none } : Statement).isReady = true := by
    unfold isReady
    rw [← hcommand, hready]
    exact Bool.false_ne_true
  have hsettled : s.update c w = close { s with command := c, cache := none } w := by
    unfold update settle
    exact (if_pos ha).trans (if_neg hunready)
  cases hsettled.symm.trans hu
  exact ⟨rfl, rfl⟩

section Insert

variable {q : Insert} (hq : s.command = .insert q)
include hq

theorem execute_incomplete (hr : s.rendered = s.command.render)
    (hm : q.missing ≠ [] ∨ q.values.isEmpty = true) (w : World σ) :
    ∃ e, e = .preflight q.target.name
        (if q.missing = [] then .nothingToInsert else .missingColumns q.missing)
        s.command.render ∧ e.missing = q.missing ∧ s.Refused w e (s.execute w) := by
  have ht : s.command.target? = some q.target := by
    rw [hq]
    rfl
  have hf : s.command.fault? =
      some (if q.missing = [] then .nothingToInsert else .missingColumns q.missing) := by
    rw [hq]
    exact Insert.fault?_of_incomplete hm
  refine ⟨_, rfl, ?_, ?_⟩
  · cases q.missing <;> rfl
  · rw [← hr]
    exact execute_of_fault ht hf w

theorem execute_complete (hr : s.rendered = s.command.render) (hm : q.missing = [])
    (hv : q.values.isEmpty = false) (hcalm : q.autoMigrate = false) (w : World σ) :
    (∀ t f r, (s.execute w).result ≠ .error (.preflight t f r)) ∧
      ∃ said, w.Said said (s.execute w).world ∧
        ∃ c ∈ said, c.runs? = some s.command.render.sql := by
  have hf : s.command.fault? = none := by
    rw [hq]
    exact Insert.fault?_of_complete hm hv
  have hmigrates : s.command.migrates = false := by
    rw [hq]
    exact hcalm
  obtain ⟨hresult, hworld⟩ := execute_of_no_fault hf hmigrates w
  obtain ⟨_, _, _, _, said, hran, hs, hend⟩ := s.execution.run_cases s.rendered w
  rw [hresult, hworld, ← hr]
  refine ⟨fun t f r he => ?_, said, hs, hran.runs⟩
  rcases hend with ⟨o, -, ho, -⟩ | ⟨e, -, hfail, -⟩
  · cases ho.symm.trans he
  · exact Execution.ofDriver_ne_preflight e t f r (Except.error.inj (hfail.symm.trans he))

end Insert

end Run

/-- An insert is run once it gives the columns that its table requires, and anything at all; until
then it fails without a call and keeps its handle, and with automatic execution it is closed when
its values are cleared. -/
theorem insert_runs_only_when_complete (h : Reached calls s) {q : Insert}
    (hq : s.command = .insert q) :
    let lacking := q.required.filter fun name =>
      ∀ column ∈ q.values.keys, Text.sameName column.name name = false
    (∃ columns reads, q.target.Looked (.ok columns) reads ∧
      q.required = (columns.map Columns.required).getD []) ∧
    ∀ {σ : Type} [Connection σ] (w : World σ),
      (lacking ≠ [] ∨ q.values.isEmpty = true →
        ∃ e, e = .preflight q.target.name
            (if lacking = [] then .nothingToInsert else .missingColumns lacking)
            s.command.render ∧ e.missing = lacking ∧ s.Refused w e (s.execute w)) ∧
      (lacking = [] → q.values.isEmpty = false → q.autoMigrate = false →
        (∀ t f r, (s.execute w).result ≠ .error (.preflight t f r)) ∧
        ∃ said, w.Said said (s.execute w).world ∧
          ∃ c ∈ said, c.runs? = some s.command.render.sql) ∧
      ∀ change t v p, s.isAutoExecute = true → s.change? change w = some (t, v) →
        t.command = .insert p → p.values.isEmpty = true →
          t.execution.state = .closed ∧ t.execution.held = none ∧ t.execution.cursor = none ∧
            ∃ closing, Execution.Discarded s.execution.held closing ∧ w.Said closing v := by
  intro lacking
  have hr : s.rendered = s.command.render := (reached_current h).rendered
  have hmissing : q.missing = lacking := q.missing_eq
  have hdemand : s.command.demand? = some (q.target, q.required) := by
    rw [hq]
    rfl
  rw [← hmissing]
  refine ⟨reached_demand h _ _ hdemand, fun w => ⟨?_, ?_, ?_⟩⟩
  · exact fun hm => execute_incomplete hq hr hm w
  · exact fun hm hv hcalm => execute_complete hq hr hm hv hcalm w
  · intro change t v p ha ht hp hempty
    have hready : t.command.isReady = false := by
      simp [hp, Command.isReady, hempty]
    obtain ⟨hx, rfl⟩ := change?_closes ha ht hready
    rw [hx]
    exact s.execution.close_cases w

/-- An insert gave `EMAIL` for the required `email` when it was run. Once its values are cleared it
is not run again, nor are columns added to the table. -/
theorem cleared_insert_keeps_handle :
    let w : World Scripted := { driver :=
      { tables := [("users", [{ name := "email", type := "TEXT", nullable := false }])] } }
    let q : Insert :=
      { target := ⟨⟨"users"⟩, {}⟩, required := ["email"], values := ⟨[(⟨"EMAIL"⟩, .int 1)]⟩ }
    let k : Handle := ⟨1, "INSERT INTO `users` (`EMAIL`) VALUES (?)"⟩
    let x : Execution := { settings := {}, held := some k, lastRun := some q.render }
    let s : Statement := ⟨.insert { q with values := {}, autoMigrate := true }, none, x⟩
    Reached [.change .clearValues, .autoMigrate true, .execute,
        .change (.value ⟨"EMAIL"⟩ (.int 1))] s ∧
      ∃ e, e.missing = ["email"] ∧ s.Refused w e (s.execute w) ∧
        (s.execute w).next.execution.held = some k := by
  intro w q k x s
  obtain ⟨t, ht, rfl⟩ : ∃ t, ((⟨⟨"users"⟩, {}⟩ : Table).insert w).1 = .ok t ∧
      t = ⟨.insert { q with values := {} }, none, { settings := {} }⟩ := ⟨_, rfl, rfl⟩
  have hgiven : Reached _ ⟨.insert q, none, { settings := {} }⟩ :=
    (Reached.insert ht).changed (c := .value ⟨"EMAIL"⟩ (.int 1)) rfl w
  have hran : (execute ⟨.insert q, none, { settings := {} }⟩ w).next =
      ⟨.insert q, some q.render, { x with state := .executed, affected := some 0 }⟩ := by
    dsimp only [w, q, k, x]
    rfl
  have hrun := hgiven.executed w
  rw [hran] at hrun
  have hmigrates := hrun.called (show call? _ _ w (.autoMigrate true) = some _ from rfl)
  have hs : Reached _ s := hmigrates.changed (c := .clearValues) rfl w
  obtain ⟨-, hchecked⟩ := insert_runs_only_when_complete hs rfl
  obtain ⟨e, -, hmissing, hrefused⟩ := (hchecked w).1 (Or.inr rfl)
  exact ⟨hs, e, hmissing, hrefused, hrefused.held⟩

end Statement

end SqlClient
