import SqlClient.Proofs.Assigned
import SqlClient.Proofs.Target

/-! # Statements that migrate before they run

A statement for which columns are added runs after its migration, and only if that ends well. The
columns that have been added can be told from the executions that have succeeded.
-/
namespace SqlClient

/-! ## Executions that succeed -/

def Exchange.succeeded? : Exchange → Option String
  | execute h (.ok _) => some h.text
  | _ => none

def succeeded (calls : List Exchange) : List String := calls.filterMap Exchange.succeeded?

section Succeeded

variable {r : Rendered} {n m : Nat} {held kept : Option Handle} {calls : List Exchange}
  {answer first : Except DriverError Outcome} {back : Option Bool}
  {second : Option (Except DriverError Outcome)} {h : Handle}

@[simp] theorem succeeded_append (cs ds : List Exchange) :
    succeeded (cs ++ ds) = succeeded cs ++ succeeded ds :=
  List.filterMap_append

@[simp] theorem succeeded_prepare (h : Handle) (answer : Except DriverError Unit)
    (calls : List Exchange) : succeeded (.prepare h answer :: calls) = succeeded calls := rfl

@[simp] theorem succeeded_isAlive (answer : Bool) (calls : List Exchange) :
    succeeded (.isAlive answer :: calls) = succeeded calls := rfl

@[simp] theorem succeeded_reconnect (answer : Bool) (calls : List Exchange) :
    succeeded (.reconnect answer :: calls) = succeeded calls := rfl

@[simp] theorem succeeded_nil : succeeded [] = [] := rfl

theorem succeeded_of_outside (hc : ∀ c ∈ calls, c.handle? = none) : succeeded calls = [] := by
  apply List.filterMap_eq_nil_iff.mpr
  intro c hmem
  have hnone := hc c hmem
  cases c with
  | execute => cases hnone
  | _ => rfl

/-- What a run of a text adds to the texts that have succeeded, by its outcome. -/
def succeededBy (sql : String) : Except DriverError Outcome → List String
  | .ok _ => [sql]
  | .error _ => []

namespace Execution

theorem Discarded.succeeded (hd : Discarded held calls) : succeeded calls = [] := by
  cases hd <;> rfl

theorem Tried.succeeded (ht : Tried h r calls answer) (htext : h.text = r.sql) :
    succeeded calls = succeededBy r.sql answer := by
  have hbound : ∀ {cs bound}, Bound h 1 r.binds cs bound → SqlClient.succeeded cs = [] := by
    intro cs bound hb
    apply List.filterMap_eq_nil_iff.mpr
    intro c hc
    obtain ⟨_, _, _, rfl, -⟩ := hb.mem c hc
    rfl
  cases ht with
  | refused hb => exact hbound hb
  | executed answer hb =>
    rw [succeeded_append, hbound hb, ← htext]
    cases answer <;> rfl

theorem Attempted.succeeded (ha : Attempted r n held kept calls answer m) :
    succeeded calls = succeededBy r.sql answer := by
  cases ha with
  | reused _ htext ht => exact ht.succeeded htext
  | unprepared _ hd => simp [hd.succeeded, succeededBy]
  | prepared _ hd ht => simp [hd.succeeded, ht.succeeded rfl]

/-- In a run the only execution that succeeds is the one that it ends with, if it does. -/
theorem Ran.succeeded (hran : Ran r n held first back second kept calls m) :
    succeeded calls = succeededBy r.sql (second.getD first) := by
  cases hran with
  | answered ha => exact ha.succeeded
  | failed ha _ hd => simp [ha.succeeded, hd.succeeded]
  | refused alive ha _ hd => simp [ha.succeeded, hd.succeeded]
  | recovered alive ha _ hd ha' => simp [ha.succeeded, hd.succeeded, ha'.succeeded, succeededBy]
  | gaveUp alive ha _ hd ha' hd' =>
    simp [ha.succeeded, hd.succeeded, ha'.succeeded, hd'.succeeded, succeededBy]

end Execution

end Succeeded

/-! ## Columns that have been added -/

namespace Table

variable {t : Table} {p : Ident × Value} {calls : List Exchange} {e : QueryError}
  {pairs lacking done : List (Ident × Value)} {result : Except QueryError Unit}

def Defines (t : Table) : List String → List (Ident × Value) → Prop :=
  List.Forall₂ fun sql p => ∃ create, sql = (t.definition create p).sql

theorem Stage.succeeded_of_error (hs : t.Stage p (.error e) calls) :
    succeeded calls = [] := by
  cases hs with
  | unread hl => exact succeeded_of_outside hl.outside
  | conflict hl => exact succeeded_of_outside hl.outside
  | refused hl _ hr he =>
    rw [succeeded_append, succeeded_of_outside hl.outside, hr.succeeded, he]
    rfl

theorem Stage.succeeded_of_ok (hs : t.Stage p (.ok ()) calls) :
    ∃ create, succeeded calls = [(t.definition create p).sql] := by
  cases hs with
  | @added columns _ _ _ _ _ _ _ _ _ _ hl _ hr ho hd =>
    refine ⟨columns.isNone, ?_⟩
    rw [succeeded_append, succeeded_append, succeeded_of_outside hl.outside,
      hr.succeeded, ho, hd.succeeded]
    rfl

theorem Stages.succeeded (hs : t.Stages lacking done result calls) :
    t.Defines (succeeded calls) done := by
  induction hs with
  | finished => exact .nil
  | stopped hone =>
    rw [hone.succeeded_of_error]
    exact .nil
  | added hone _ ih =>
    obtain ⟨create, htext⟩ := hone.succeeded_of_ok
    rw [succeeded_append, htext]
    exact .cons ⟨create, rfl⟩ ih

theorem Migrating.succeeded (hm : t.Migrating pairs lacking done result calls) :
    t.Defines (succeeded calls) done := by
  cases hm with
  | unread hl =>
    rw [succeeded_of_outside hl.outside]
    exact .nil
  | staged hl hs =>
    rw [succeeded_append, succeeded_of_outside hl.outside]
    exact hs.succeeded

theorem Migrating.sublist (hm : t.Migrating pairs lacking done result calls)
    (hpairs : (pairs.map Prod.fst).Nodup) : lacking.Sublist pairs := by
  cases hm with
  | unread => exact List.nil_sublist pairs
  | staged =>
    rw [unknownFirsts_of_nodup pairs hpairs]
    exact List.filter_sublist

end Table

namespace Statement

variable {σ : Type} [Connection σ] {s : Statement} {calls : List StatementCall}

/-- A statement that passes its checks and migrates is held back if its migration fails, and is run
after it otherwise. -/
theorem execute_migrating (hm : s.command.migrates = true) (hf : s.command.fault? = none)
    (w : World σ) :
    ∃ t values lacking done result said v, s.command.target? = some t ∧
      s.command.assigned? = some values ∧ t.Migrating values.entries lacking done result said ∧
      w.Said said v ∧
      ((∃ e, result = .error e ∧
          s.execute w = ⟨.error e, { s.keepRendered with execution := s.execution.fail e }, v⟩) ∨
        result = .ok () ∧
          s.execute w = ⟨(s.execution.run s.rendered v).result,
            { s.keepRendered with execution := (s.execution.run s.rendered v).next },
            (s.execution.run s.rendered v).world⟩) := by
  obtain ⟨t, values, m, ht, hv, hp⟩ : ∃ t values m, s.command.target? = some t ∧
      s.command.assigned? = some values ∧ s.keepRendered.preflight w = migrate t values m w := by
    rcases s.keepRendered.preflight_cases w with
      ⟨_, f, -, hfault, -⟩ | ⟨-, ⟨t, values, m, ht, hv, -, hp⟩ | ⟨hno, -⟩⟩
    · exact absurd (hfault.symm.trans hf) (by simp)
    · exact ⟨t, values, m, ht, hv, hp⟩
    · exact absurd (hm.symm.trans hno) (by simp)
  obtain ⟨lacking, done, result, said, hs, hmigrating, hensured⟩ :=
    t.ensureColumns_migrating values.entries w
  obtain ⟨hresult, hworld⟩ := migrate_eq t values m w
  rw [hensured] at hresult
  refine ⟨t, values, lacking, done, result, said, (migrate t values m w).2, ht, hv, hmigrating,
    ?_, ?_⟩
  · rcases hworld with hw | hw
    · rw [hw]
      exact hs
    · rw [hw]
      exact hs.note _
  · unfold Statement.execute
    dsimp only
    rw [hp, hresult]
    cases result with
    | error e => exact Or.inl ⟨e, rfl, rfl⟩
    | ok u => exact Or.inr ⟨rfl, rfl⟩

omit [Connection σ] in
theorem reached_assigned_nodup (h : Reached calls s) {values : OrderedMap Ident Value}
    (hv : s.command.assigned? = some values) : (values.entries.map Prod.fst).Nodup := by
  rw [reached_assigned h values hv]
  exact OrderedMap.nodup_keys_ofList _

/-- A statement that passes its checks and migrates makes the whole migration first. The columns
that are lacking are taken in the order of the values, and those that have been added are the first
of them. If the migration fails, its error is the answer and is kept, and the statement is as before
otherwise. Nothing is asked of the driver for the statement then. If it ends well, the statement is
run, and adds no column any more. -/
theorem failed_migration_holds_back (h : Reached calls s) (hm : s.command.migrates = true)
    (hf : s.command.fault? = none) (w : World σ) :
    ∃ t values lacking done result said, s.command.target? = some t ∧
      s.command.assigned? = some values ∧ t.Migrating values.entries lacking done result said ∧
      lacking.Sublist values.entries ∧ done <+: lacking ∧ t.Defines (succeeded said) done ∧
      (∀ c ∈ said, ∀ k, c.handle? = some k →
        k.text ≠ s.rendered.sql ∧ s.execution.held ≠ some k) ∧
      (s.execute w).next.command = s.command ∧ (s.execute w).next.rendered = s.rendered ∧
      ((∃ e, result = .error e ∧ w.Said said (s.execute w).world ∧
          (s.execute w).result = .error e ∧ (s.execute w).next.execution.state = .failed ∧
          (s.execute w).next.execution.lastError = some e ∧
          (s.execute w).next.execution.held = s.execution.held) ∨
        result = .ok () ∧ done = lacking ∧ ∃ v own, w.Said said v ∧ v.Said own (s.execute w).world ∧
          (s.execute w).result = (s.execution.run s.rendered v).result ∧
          ∀ c ∈ own, ∀ k, c.handle? = some k →
            ∀ create p, k.text ≠ (t.definition create p).sql) := by
  obtain ⟨t, values, lacking, done, result, said, v, ht, hv, hmigrating, hs, hend⟩ :=
    execute_migrating hm hf w
  have hrendered := (reached_current h).rendered
  -- Neither the text nor a handle of the statement is one by which a column is added.
  have htext : ∀ create p, s.rendered.sql ≠ (t.definition create p).sql := by
    intro create p
    rw [hrendered]
    exact Command.render_ne_addColumn ht _ _
  have hheld : ∀ k, s.execution.held = some k →
      ∀ create p, k.text ≠ (t.definition create p).sql := by
    intro k hk create p
    obtain ⟨d, hd, hold⟩ := reached_held_text h k hk
    rw [hold]
    exact Command.render_ne_addColumn (hd.trans ht) _ _
  refine ⟨t, values, lacking, done, result, said, ht, hv, hmigrating,
    hmigrating.sublist (reached_assigned_nodup h hv), hmigrating.prefix_done, hmigrating.succeeded,
    ?_, s.execute_command w, ?_, ?_⟩
  · intro c hc k hk
    obtain ⟨create, p, hdefines⟩ := hmigrating.defining c hc k hk
    constructor
    · intro hsame
      exact htext create p (hsame.symm.trans hdefines)
    · intro hsame
      exact hheld k hsame create p hdefines
  · rcases hend with ⟨e, -, hx⟩ | ⟨-, hx⟩
    · rw [hx]
      rfl
    · rw [hx]
      rfl
  · rcases hend with ⟨e, rfl, hx⟩ | ⟨rfl, hx⟩
    · rw [hx]
      exact Or.inl ⟨e, rfl, hs, rfl, rfl, rfl, rfl⟩
    · obtain ⟨own, hown, htold⟩ := Execution.run_told s.execution s.rendered v
      rw [hx]
      refine Or.inr ⟨rfl, hmigrating.done_of_ok, v, own, hs, hown, rfl, ?_⟩
      intro c hc k hk create p
      rcases htold.accounted.about c hc k hk with hkept | ⟨⟨_, rfl, hnew⟩, -⟩
      · exact hheld k hkept create p
      · rw [hnew]
        exact htext create p

/-- Two columns are lacking for an update, and the statement that adds the second of them is
refused. The update is not run. -/
theorem refused_column_holds_update_back :
    ∃ (s : Statement) (calls : List StatementCall) (w : World Scripted) (said : List Exchange)
      (t : Table) (done : List (Ident × Value)), Reached calls s ∧ s.command.target? = some t ∧
      s.command.migrates = true ∧ s.command.fault? = none ∧
      s.rendered.sql = "UPDATE `t` SET `a` = ?, `b` = ?" ∧ w.Said said (s.execute w).world ∧
      succeeded said = ["CREATE TABLE `t` (`a` BIGINT)"] ∧ t.Defines (succeeded said) done ∧
      (∀ c ∈ said, ∀ k, c.handle? = some k → k.text ≠ s.rendered.sql) ∧
      (s.execute w).next.execution.state = .failed ∧
      (s.execute w).next.rendered = s.rendered := by
  let w : World Scripted :=
    { driver := { responses :=
        [⟨some ("t", some [{ name := "a", type := "BIGINT" }]), .outcome (.affected 0)⟩,
          { reply := .fail ⟨.other, "locked"⟩ }] } }
  let values : OrderedMap Ident Value := ⟨[(⟨"a"⟩, .int 1), (⟨"b"⟩, .int 2)]⟩
  let s : Statement :=
    ⟨.update { target := ⟨⟨"t"⟩, {}⟩, values, autoMigrate := true }, none, { settings := {} }⟩
  let first : Handle := ⟨1, "CREATE TABLE `t` (`a` BIGINT)"⟩
  let second : Handle := ⟨2, "ALTER TABLE `t` ADD COLUMN `b` BIGINT"⟩
  have hvalues : Reached [.change (.values values.entries)] _ :=
    (Reached.update ⟨⟨"t"⟩, {}⟩).changed rfl w
  have hs : Reached _ s :=
    hvalues.called (show call? _ _ w (.autoMigrate true) = some ⟨.done, s, w⟩ from rfl)
  have hcalls : w.Said
      [.listTables (.ok []), .listTables (.ok []), .prepare first (.ok ()),
        .execute first (.ok (.affected 0)), .close first (.ok ()), .listTables (.ok ["t"]),
        .describeColumns "t" (.ok [{ name := "a", type := "BIGINT" }]), .prepare second (.ok ()),
        .execute second (.error ⟨.other, "locked"⟩), .close second (.ok ())]
      (s.execute w).world := by
    dsimp only [w, s, values, first, second]
    rfl
  have herror : (s.execute w).result =
      .error (.driver ⟨.other, "locked"⟩ (.text second.text)) := by
    dsimp only [w, s, values, second]
    rfl
  obtain ⟨t, _, _, done, _, said, ht, -, -, -, -, hdone, hnot, -, hsame, hend⟩ :=
    failed_migration_holds_back hs rfl rfl w
  rcases hend with ⟨e, -, hsaid, -, hstate, -⟩ | ⟨-, -, v, _, -, -, hresult, -⟩
  · have htexts : succeeded said = [first.text] := by
      rw [hsaid.unique hcalls]
      rfl
    have hsql : s.rendered.sql = "UPDATE `t` SET `a` = ?, `b` = ?" := by decide
    exact ⟨s, _, w, said, t, done, hs, ht, rfl, rfl, hsql, hsaid, htexts, hdone,
      fun c hc k hk => (hnot c hc k hk).1, hstate, hsame⟩
  · -- The error belongs to the statement that adds the column, not to a run of the update.
    obtain ⟨-, -, hrun⟩ := (Execution.settled_run s.execution s.rendered v True).error _
      (hresult.symm.trans herror)
    have hbinds := congrArg Rendered.binds (Option.some.inj (hrun trivial))
    exact absurd hbinds (by decide)

end Statement

end SqlClient
