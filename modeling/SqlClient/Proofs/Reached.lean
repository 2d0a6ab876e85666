import SqlClient.Session.StatementCall

/-! # What calls can make

Trees and statements that have come about by calls, from nothing else. The driver and the world may
be others at every call, so whatever happens between two calls is allowed for. What a call makes of
the command does not depend on them.
-/
namespace SqlClient

/-- A level of a tree made by calls; groups copied into it have been made in the same way. -/
inductive Conditions.Built : Conditions → Prop where
  | empty : Built {}
  | call {cs : Conditions} (groups : String → Option Conditions) (c : TreeCall)
      (hg : ∀ name g, groups name = some g → Built g) (h : Built cs) :
      Built (cs.edits (c.reply groups cs).edits)

namespace Statement

/-- A statement with the calls made on it and on those it was copied from, the last call first. -/
inductive Reached : List StatementCall → Statement → Prop where
  | select (t : Table) : Reached [] t.select
  | update (t : Table) : Reached [] t.update
  | delete (t : Table) : Reached [] t.delete
  | insert {σ : Type} [Connection σ] {t : Table} {w : World σ} {s : Statement}
      (h : (t.insert w).1 = .ok s) : Reached [] s
  | query (settings : Settings) (sql : String) : Reached [] (settings.query sql)
  | clone {calls s} (h : Reached calls s) : Reached calls s.clone
  | call {σ : Type} [Connection σ] {calls s} {groups : String → Option Conditions} {w : World σ}
      {c : StatementCall} {a : After σ Statement Answer}
      (hg : ∀ name g, groups name = some g → g.Built) (h : Reached calls s)
      (hc : s.call? groups w c = some a) : Reached (c :: calls) a.next

end Statement

namespace Command

/-- What a call makes of the command. A call that the command does not have leaves it alone, and so
does one that only runs the statement or reads from it. -/
def after (groups : String → Option Conditions) (c : Command) : StatementCall → Command
  | .change change => (c.change? change).getD c
  | .tree call =>
    match c.conditions? with
    | some here => (call.reply groups here).edits.foldl (fun c e => c.edit e) c
    | none => c
  | .first =>
    match c with
    | select q => select { q with limit := some 1 }
    | c => c
  | .autoMigrate b =>
    match c with
    | insert q => insert { q with autoMigrate := b }
    | update q => update { q with autoMigrate := b }
    | c => c
  | _ => c

inductive Made : Command → Prop where
  | select (table : Ident) : Made (.select { table })
  | insert (target : Table) (required : List String) : Made (.insert { target, required })
  | update (target : Table) : Made (.update { target })
  | delete (table : Ident) : Made (.delete { table })
  | raw (sql : String) : Made (.raw ⟨.text sql⟩)
  | after {c : Command} (groups : String → Option Conditions) (call : StatementCall)
      (hg : ∀ name g, groups name = some g → g.Built) (h : Made c) : Made (c.after groups call)

end Command

theorem Table.eq_of_insert_ok {σ : Type} [Connection σ] {t : Table} {w : World σ} {s : Statement}
    (h : (t.insert w).1 = .ok s) :
    ∃ required, s = ⟨.insert { target := t, required }, none, { settings := t.settings }⟩ := by
  unfold insert at h
  dsimp only at h
  generalize (t.columnsIfListed w).1 = columns at h
  cases columns with
  | error e => cases h
  | ok columns =>
    cases h
    exact ⟨_, rfl⟩

namespace Statement

variable {σ : Type} [Connection σ] {s : Statement}

@[simp] theorem execute_command (s : Statement) (w : World σ) :
    (s.execute w).next.command = s.command := by
  unfold execute
  dsimp only
  split <;> rfl

@[simp] theorem close_command (s : Statement) (w : World σ) :
    (s.close w).1.command = s.command := rfl

@[simp] theorem settle_command (s : Statement) (w : World σ) :
    (s.settle w).1.command = s.command := by
  unfold settle
  split
  · split
    · exact s.execute_command w
    · exact s.close_command w
  · rfl

@[simp] theorem update_command (s : Statement) (c : Command) (w : World σ) :
    (s.update c w).1.command = c :=
  settle_command _ w

@[simp] theorem edit_command (s : Statement) (w : World σ) (e : Edit) :
    (s.edit w e).1.command = s.command.edit e := by
  cases e with
  | join k => rfl
  | append t => exact update_command s _ w

theorem edits_command (s : Statement) (es : List Edit) (w : World σ) :
    (s.edits es w).1.command = es.foldl (fun c e => c.edit e) s.command := by
  unfold edits
  induction es generalizing s w with
  | nil => rfl
  | cons e es ih =>
    rw [List.foldl_cons, List.foldl_cons, ← s.edit_command w e]
    exact ih (s.edit w e).1 (s.edit w e).2

@[simp] theorem ensureExecuted_command (s : Statement) (w : World σ) :
    (s.ensureExecuted w).next.command = s.command := by
  unfold ensureExecuted
  split
  · rfl
  · split
    · rfl
    · exact s.execute_command w
  · exact s.execute_command w
  · exact s.execute_command w

@[simp] theorem read_command {α : Type} (s : Statement)
    (reading : Execution → Except QueryError α × Execution) (w : World σ) :
    (s.read reading w).next.command = s.command := by
  unfold read
  dsimp only
  split
  · exact s.ensureExecuted_command w
  · exact s.ensureExecuted_command w

@[simp] theorem access_command (s : Statement) (w : World σ) (acc : Accessor) :
    (s.access w acc).next.command = s.command := by
  cases acc <;> exact s.read_command _ w

@[simp] theorem rowCount_command (s : Statement) (w : World σ) :
    (s.rowCount w).next.command = s.command := by
  unfold rowCount
  split
  · rfl
  · split
    · rfl
    · exact s.read_command _ w
  · exact s.read_command _ w

theorem first?_command {groups : String → Option Conditions} {w : World σ}
    {a : After σ Statement (Except QueryError (Option Row))} (ha : s.first? w = some a) :
    a.next.command = s.command.after groups .first := by
  unfold first? at ha
  split at ha
  · next q hq =>
    simp only [Option.some.injEq] at ha
    subst ha
    have hafter : s.command.after groups .first = .select { q with limit := some 1 } := by
      rw [hq]
      rfl
    rw [fetch, read_command, hafter]
    split
    · next hl =>
      rw [← hl]
      exact hq
    · exact update_command s _ w
  · cases ha

theorem call?_command {groups : String → Option Conditions} {w : World σ} {c : StatementCall}
    {a : After σ Statement Answer} (ha : s.call? groups w c = some a) :
    a.next.command = s.command.after groups c := by
  cases c with
  | change change =>
    obtain ⟨⟨t, v⟩, ht, rfl⟩ := Option.map_eq_some_iff.mp ha
    obtain ⟨d, hd, hu⟩ := Option.map_eq_some_iff.mp ht
    have hc : t.command = d := by
      rw [← update_command s d w, hu]
    simpa [Command.after, hd] using hc
  | tree call =>
    unfold call? tree? at ha
    unfold Command.after
    dsimp only at ha ⊢
    cases hc : s.command.conditions? with
    | none => simp [hc] at ha
    | some here =>
      simp only [hc, Option.some.injEq] at ha
      subst ha
      exact edits_command s _ _
  | first =>
    obtain ⟨b, hb, rfl⟩ := Option.map_eq_some_iff.mp ha
    exact first?_command hb
  | autoMigrate b =>
    obtain ⟨t, ht, rfl⟩ := Option.map_eq_some_iff.mp ha
    unfold autoMigrate? at ht
    unfold Command.after
    split at ht
    · cases ht
      simp_all
    · cases ht
      simp_all
    · cases ht
  | access acc => cases ha; exact s.access_command w acc
  | rowCount => cases ha; exact s.rowCount_command w
  | execute => cases ha; exact s.execute_command w
  | close => cases ha; rfl
  | render => cases ha; rfl
  | autoExecute b => cases ha; rfl
  | isAutoExecute => cases ha; rfl
  | isReady => cases ha; rfl
  | requiredColumns =>
    unfold call? at ha
    dsimp only at ha
    split at ha
    · cases ha; rfl
    · cases ha
  | missingColumns =>
    unfold call? at ha
    dsimp only at ha
    split at ha
    · cases ha; rfl
    · cases ha

/-- The command of a statement is made by the calls on it, whatever the drivers answered. -/
theorem reached_made {calls : List StatementCall} (h : Reached calls s) : s.command.Made := by
  induction h with
  | select t => exact .select t.name
  | update t => exact .update t
  | delete t => exact .delete t.name
  | @insert _ _ t w s h =>
    obtain ⟨required, rfl⟩ := Table.eq_of_insert_ok h
    exact .insert t _
  | query settings sql => exact .raw sql
  | clone _ ih => exact ih
  | @call _ _ _ _ groups _ c _ hg _ hc ih =>
    rw [call?_command hc]
    exact .after groups c hg ih

section Unnamed

variable {calls : List StatementCall} {w : World σ}

theorem Reached.called {c : StatementCall} {a : After σ Statement Answer} (h : Reached calls s)
    (ha : s.call? (fun _ => none) w c = some a) : Reached (c :: calls) a.next :=
  .call (by simp) h ha

theorem Reached.changed (h : Reached calls s) {c : Change} {d : Command}
    (hd : s.command.change? c = some d) (w : World σ) :
    Reached (.change c :: calls) (s.update d w).1 := by
  have ha : s.call? (fun _ => none) w (.change c) =
      some ⟨.done, (s.update d w).1, (s.update d w).2⟩ := by
    simp [call?, change?, hd]
  exact h.called ha

theorem Reached.executed (h : Reached calls s) (w : World σ) :
    Reached (.execute :: calls) (s.execute w).next := by
  have ha : s.call? (fun _ => none) w .execute =
      some (answered (fun _ => .done) (s.execute w)) := rfl
  exact h.called ha

end Unnamed

end Statement

end SqlClient
