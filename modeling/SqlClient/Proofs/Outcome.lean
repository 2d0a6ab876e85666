import SqlClient.Proofs.Counting.Query
import SqlClient.Proofs.Counting.Select
import SqlClient.Proofs.Execution.Outcome
import SqlClient.Proofs.Position
import SqlClient.Proofs.Retained
import SqlClient.Proofs.Target

/-! # What a statement reports

Rows, counts and errors that are read from a statement belong to the command as it is now. The rows
and the number of affected rows are those that the driver gave when the present rendering was
executed for the last time, and an error was met with the present rendering.
-/
namespace SqlClient

def Outcome.answer (o : Outcome) (position : Nat) : Accessor → Answer
  | .affectedRows => .count (o.affected?.getD 0)
  | acc => Place.answer o.contents ⟨position, false⟩ acc

/-! ## Texts that are not the statement's own -/

theorem Command.counting_ne_render {c : Command} {r : Rendered} (h : c.counting? = some r) :
    r.sql ≠ c.render.sql := by
  cases c with
  | select q =>
    cases h
    exact q.count_sql_ne
  | raw q =>
    unfold counting? at h
    dsimp only at h
    by_cases hs : q.isSelect = true
    · rw [if_pos hs] at h
      cases h
      exact q.count_sql_ne
    · rw [if_neg hs] at h
      cases h
  | insert | update | delete => cases h

namespace Statement

/-- A statement with the calls made on it, the last one first, and with what was said to drivers
during them, in the order in which it was said. Nothing has been said for a copy. -/
inductive Recorded : List Exchange → List StatementCall → Statement → Prop where
  | begun {s} (h : Reached [] s) : Recorded [] [] s
  | copied {past calls s} (h : Recorded past calls s) : Recorded [] calls s.clone
  | called {σ : Type} [Connection σ] {past said calls s} {groups : String → Option Conditions}
      {w : World σ} {c : StatementCall} {a : After σ Statement Answer}
      (hg : ∀ name g, groups name = some g → g.Built) (h : Recorded past calls s)
      (hc : s.call? groups w c = some a) (hs : w.Said said a.world) :
      Recorded (past ++ said) (c :: calls) a.next

/-- What a statement may run of its own during a call, and so have as its result then. -/
def Owns (s : Statement) (groups : String → Option Conditions) (c : StatementCall)
    (r : Rendered) : Prop :=
  ∃ d, (d = s.command ∨ d ∈ s.command.versions groups c) ∧ r = d.render

/-- What is run beside a statement during a call: what its rows are counted by, and what adds columns
to the table that it writes to. -/
def Sends (s : Statement) (c : StatementCall) (r : Rendered) : Prop :=
  s.counts? c = some r ∨ ∃ t, s.command.target? = some t ∧ ∃ d a, r = AddColumn.render d a

open Execution (Acts Apart Grounded FailedWith Shows Yields)

theorem apart_of_call (s : Statement) (groups : String → Option Conditions) (c : StatementCall) :
    Apart (s.Owns groups c) (s.Sends c) := by
  rintro _ e ⟨d, hd, rfl⟩ (hcount | ⟨t, ht, dialect, a, rfl⟩)
  · -- Only to count the rows is another text run, and that changes nothing of the statement.
    cases c with
    | rowCount =>
      have hsame : d = s.command := by
        rcases hd with hd | hd
        · exact hd
        · exact List.mem_singleton.mp hd
      rw [hsame]
      exact Command.counting_ne_render hcount
    | _ => cases hcount
  · have htarget : d.target? = some t := by
      rcases hd with rfl | hd
      · exact ht
      · exact (Command.kept_target?.of_mem_versions hd).trans ht
    exact (Command.render_ne_addColumn htarget dialect a).symm

theorem licensed_sends (s : Statement) (c : StatementCall) :
    s.command.Licensed (s.Sends c) fun _ => True :=
  ⟨fun _ t ht a => Or.inr ⟨t, ht, _, a, rfl⟩, fun _ _ _ _ => trivial⟩

/-! ## What a statement has to show -/

/-- If a statement has a result, it is the last outcome of the rendering of its command. -/
def Backed (s : Statement) (past : List Exchange) : Prop :=
  s.execution.Grounded (· = s.command.render) past

variable {σ : Type} [Connection σ] {s t : Statement} {past : List Exchange} {calm : Prop}
  {w v : World σ}

/-- The run that is remembered tells which of its own renderings a statement shows. -/
theorem Backed.acts {own errand : Rendered → Prop} {early : QueryError → Prop}
    (h : s.Backed past) (hown : own s.command.render) (hapart : Apart own errand)
    (hacts : Acts own errand early s.execution w t.execution v) (ht : t.Current calm) :
    ∃ said, w.Said said v ∧ t.Backed (past ++ said) := by
  have hbefore : s.execution.Grounded own past := by
    intro hs
    obtain ⟨r, o, p, rfl, hpast, hshows⟩ := h hs
    exact ⟨_, o, p, hown, hpast, hshows⟩
  obtain ⟨said, hsaid, hafter⟩ := hacts.grounded hapart hbefore
  refine ⟨said, hsaid, fun hs => ?_⟩
  obtain ⟨r, o, p, -, hpast, hshows⟩ := hafter hs
  have hr : r = t.command.render :=
    Option.some.inj (hshows.lastRun.symm.trans (ht.tells.executed hs))
  exact ⟨r, o, p, hr, hpast, hshows⟩

theorem Backed.call? (h : s.Backed past) (hs : s.Current calm)
    {groups : String → Option Conditions} {c : StatementCall} {a : After σ Statement Answer}
    (ha : s.call? groups w c = some a) :
    ∃ said, w.Said said a.world ∧ a.next.Backed (past ++ said) := by
  have hown : ∀ d ∈ s.command.versions groups c, s.Owns groups c d.render :=
    fun d hd => ⟨d, Or.inr hd, rfl⟩
  have hacts := call?_acts ha hs.toFaithful hown (s.licensed_sends c) fun _ => Or.inl
  exact h.acts ⟨s.command, Or.inl rfl, rfl⟩ (s.apart_of_call groups c) hacts (hs.call? ha)

theorem Backed.ensureExecuted (h : s.Backed past) (hs : s.Current calm) (w : World σ) :
    ∃ said, w.Said said (s.ensureExecuted w).world ∧
      (s.ensureExecuted w).next.Backed (past ++ said) := by
  have hown : s.Owns (fun _ => none) .execute s.rendered := ⟨s.command, Or.inl rfl, hs.rendered⟩
  have hacts := ensureExecuted_acts hown (s.licensed_sends .execute) w
  rw [hs.rendered] at hown
  exact h.acts hown (s.apart_of_call _ _) hacts (hs.ensureExecuted w).current

/-! ## Accessors -/

/-- How a question about the result of `r` ends: it is answered from the last outcome of `r`, or it
leaves the statement failed with an error that was met with `r`. -/
inductive Reports (past : List Exchange) (r : Rendered) (calm : Prop) (acc : Accessor) :
    After σ Statement Answer → Prop where
  | read {t : Statement} {w : World σ} (o : Outcome) (q : Nat) : Produces past r o →
      t.execution.Shows r o q → Reports past r calm acc ⟨o.answer q acc, t, w⟩
  | failed {t : Statement} {w : World σ} (e : QueryError) : FailedWith t.execution e →
      (calm → e.run? = some r) → Reports past r calm acc ⟨.failed e, t, w⟩

theorem reports_read {α : Type} {reading : Execution → Except QueryError α × Execution}
    {answer : Outcome → Nat → α} {acc : Accessor} {f : α → Answer} (h : s.Backed past)
    (hs : s.Current calm)
    (hr : ∀ {x o p}, x.Shows s.command.render o p →
      Yields s.command.render o (answer o) (reading x))
    (hf : ∀ o q, f (answer o q) = o.answer q acc) (w : World σ) :
    ∃ said, w.Said said (answered f (s.read reading w)).world ∧
      Reports (past ++ said) s.command.render calm acc (answered f (s.read reading w)) := by
  obtain ⟨said, hsaid, hbacked⟩ := h.ensureExecuted hs w
  have hsettled := (hs.ensureExecuted w).settled
  have hcommand := s.ensureExecuted_command w
  refine ⟨said, ?_⟩
  unfold Statement.read
  dsimp only
  generalize s.ensureExecuted w = a at hsaid hbacked hsettled hcommand ⊢
  rcases a with ⟨e | _, t, v⟩
  · obtain ⟨hstate, hlast, hrun⟩ := hsettled.error e rfl
    exact ⟨hsaid, .failed e ⟨hstate, hlast⟩ hrun⟩
  · obtain ⟨r, o, p, rfl, hpast, hshows⟩ := hbacked (hsettled.ok () rfl).1
    dsimp only at hcommand
    rw [hcommand] at hpast hshows
    have hyields := hr hshows
    dsimp only at hsaid ⊢
    generalize reading t.execution = out at hyields ⊢
    cases hyields with
    | read q hy =>
      have hread : Reports (past ++ said) s.command.render calm acc
          ⟨o.answer q acc, { t with execution := _ }, v⟩ := .read o q hpast hy
      rw [← hf o q] at hread
      exact ⟨hsaid, hread⟩
    | broken e hy => exact ⟨hsaid, .failed _ hy fun _ => Execution.run?_ofDriver e _⟩

theorem reports_fetch (h : s.Backed past) (hs : s.Current calm) {fetch : Fetch} {acc : Accessor}
    {f : Option Row → Answer}
    (hf : ∀ o q, f (Place.row? (Outcome.contents o) ⟨q, false⟩) = o.answer q acc) (w : World σ) :
    ∃ said, w.Said said (answered f (s.fetch fetch w)).world ∧
      Reports (past ++ said) s.command.render calm acc (answered f (s.fetch fetch w)) :=
  reports_read h hs (fun hx => hx.fetch fetch) hf w

theorem reports_set (h : s.Backed past) (hs : s.Current calm) {acc : Accessor}
    {f : List (OrderedMap String Value) → Answer}
    (hf : ∀ o q, f ((Outcome.contents o).map Row.toMap) = o.answer q acc) (w : World σ) :
    ∃ said, w.Said said (answered f (s.set w)).world ∧
      Reports (past ++ said) s.command.render calm acc (answered f (s.set w)) := by
  have hread : ∀ {x : Execution} {o p}, x.Shows s.command.render o p →
      Yields s.command.render o (fun _ => o.contents.map Row.toMap)
        (x.all.1.map fun rows => rows.map Row.toMap, x.all.2) := fun hx => hx.all.map _
  exact reports_read h hs hread hf w

theorem reports_affectedRows (h : s.Backed past) (hs : s.Current calm) (w : World σ) :
    ∃ said, w.Said said (answered .count (s.affectedRows w)).world ∧
      Reports (past ++ said) s.command.render calm .affectedRows
        (answered .count (s.affectedRows w)) := by
  have hread : ∀ {x : Execution} {o p}, x.Shows s.command.render o p →
      Yields s.command.render o (fun _ => o.affected?.getD 0) (.ok (x.affected.getD 0), x) := by
    intro x o p hx
    rw [hx.affected]
    exact .read p hx
  exact reports_read h hs hread (fun _ _ => rfl) w

theorem reports_access (h : s.Backed past) (hs : s.Current calm) (w : World σ) (acc : Accessor) :
    ∃ said, w.Said said (s.access w acc).world ∧
      Reports (past ++ said) s.command.render calm acc (s.access w acc) := by
  cases acc with
  | row | rowFirst | rowLast | rowAt n | map | rowStrings | mapStrings =>
    exact reports_fetch h hs (fun _ _ => rfl) w
  | set | setStrings => exact reports_set h hs (fun _ _ => rfl) w
  | affectedRows => exact reports_affectedRows h hs w

/-- The first row is that of the select with its limit, which is run anew if the limit is. -/
theorem reports_first? (h : s.Backed past) (hs : s.Current calm)
    {a : After σ Statement (Except QueryError (Option Row))} (ha : s.first? w = some a) :
    ∃ said, w.Said said a.world ∧
      Reports (past ++ said) a.next.command.render calm .rowFirst (answered .row a) := by
  have hfetched : ∀ {t : Statement} {v : World σ} {past}, t.Backed past → t.Current calm →
      ∃ said, v.Said said (t.fetch (.move .first) v).world ∧
        Reports (past ++ said) (t.fetch (.move .first) v).next.command.render calm .rowFirst
          (answered .row (t.fetch (.move .first) v)) := by
    intro t v past hbacked hcurrent
    have hcommand : (t.fetch (.move .first) v).next.command = t.command := t.read_command _ v
    rw [hcommand]
    exact reports_fetch hbacked hcurrent (fun _ _ => rfl) v
  unfold first? at ha
  split at ha
  · next q hq =>
    simp only [Option.some.injEq] at ha
    subst ha
    by_cases hl : q.limit = some 1
    · rw [if_pos hl]
      exact hfetched h hs
    · rw [if_neg hl]
      let d : Command := .select { q with limit := some 1 }
      have hacts : Acts (fun r => r = s.command.render ∨ r = d.render) (fun _ => False)
          (fun _ => False) s.execution w (s.update d w).1.execution (s.update d w).2 :=
        update_acts (Or.inr rfl) (.of_no_target rfl) s w
      have hcurrent : (s.update d w).1.Current calm := update_current (fun _ => rfl) w
      obtain ⟨said, hsaid, hbacked⟩ :=
        h.acts (Or.inl rfl) (fun _ _ _ hfalse => hfalse.elim) hacts hcurrent
      obtain ⟨said', hsaid', hreports⟩ := hfetched (v := (s.update d w).2) hbacked hcurrent
      rw [List.append_assoc] at hreports
      exact ⟨said ++ said', hsaid.trans hsaid', hreports⟩
  · cases ha

/-! ## Statements with their past -/

omit [Connection σ] in
theorem backed_of_unexecuted (hs : s.execution.state = .unexecuted) : s.Backed past := by
  apply Execution.grounded_of_state
  simp [hs]

theorem Recorded.reached {calls : List StatementCall} (h : Recorded past calls s) :
    Reached calls s := by
  induction h with
  | begun h => exact h
  | copied _ ih => exact .clone ih
  | called hg _ hc _ ih => exact .call hg ih hc

theorem Recorded.backed {calls : List StatementCall} (h : Recorded past calls s) :
    s.Backed past := by
  induction h with
  | begun h =>
    apply backed_of_unexecuted
    cases h with
    | insert h =>
      obtain ⟨required, rfl⟩ := Table.eq_of_insert_ok h
      rfl
    | _ => rfl
  | copied => exact backed_of_unexecuted rfl
  | called _ h hc hs ih =>
    obtain ⟨said, hsaid, hbacked⟩ := ih.call? (reached_current h.reached) hc
    rw [hs.unique hsaid]
    exact hbacked

theorem Reached.recorded {calls : List StatementCall} (h : Reached calls s) :
    ∃ past, Recorded past calls s := by
  induction h with
  | select t => exact ⟨[], .begun (.select t)⟩
  | update t => exact ⟨[], .begun (.update t)⟩
  | delete t => exact ⟨[], .begun (.delete t)⟩
  | insert h => exact ⟨[], .begun (.insert h)⟩
  | query settings sql => exact ⟨[], .begun (.query settings sql)⟩
  | clone _ ih =>
    obtain ⟨past, hpast⟩ := ih
    exact ⟨[], .copied hpast⟩
  | call hg h hc ih =>
    obtain ⟨past, hpast⟩ := ih
    obtain ⟨said, hsaid, -⟩ := hpast.backed.call? (reached_current h) hc
    exact ⟨past ++ said, .called hg hpast hc hsaid⟩

/-- In every reachable state the rendering is fresh, and an error that is kept was met with it unless
a migration was asked for. What has been executed shows what the driver answered when this rendering
was executed for the last time, and every accessor reports just that or the error that is kept. The
rows of a select are counted by the text that the command has for this now. -/
theorem reached_result_fresh {calls : List StatementCall} (h : Reached calls s) :
    s.rendered = s.command.render ∧
      (s.execution.state = .failed → Unmigrated calls →
        ∃ e, s.execution.lastError = some e ∧ e.run? = some s.command.render) ∧
      (∀ r, s.command.counting? = some r → s.CountsBy r) ∧
      (∃ past, Recorded past calls s) ∧
      ∀ past, Recorded past calls s →
        (s.execution.state = .executed → ∃ o q,
          Produces past s.command.render o ∧ s.execution.Shows s.command.render o q) ∧
        ∀ {σ : Type} [Connection σ] (w : World σ),
          (∀ acc, ∃ said, w.Said said (s.access w acc).world ∧
            Reports (past ++ said) s.command.render (Unmigrated calls) acc (s.access w acc)) ∧
          (s.command.counting? = none → ∃ said, w.Said said (s.rowCount w).world ∧
            Reports (past ++ said) s.command.render (Unmigrated calls) .affectedRows
              (answered .count (s.rowCount w))) ∧
          ∀ a, s.first? w = some a → ∃ said, w.Said said a.world ∧
            Reports (past ++ said) a.next.command.render (Unmigrated calls) .rowFirst
              (answered .row a) := by
  have hs := reached_current h
  refine ⟨hs.rendered, fun hf hcalm => ?_, fun r hr => countsBy_of_counting hr, h.recorded, ?_⟩
  · obtain ⟨e, he, hr⟩ := hs.tells.failed hf
    exact ⟨e, he, hr hcalm⟩
  intro past hpast
  have hbacked := hpast.backed
  refine ⟨fun he => ?_, fun w => ⟨reports_access hbacked hs w, fun hcount => ?_, fun a ha => ?_⟩⟩
  · obtain ⟨r, o, q, rfl, hproduces, hshows⟩ := hbacked he
    exact ⟨o, q, hproduces, hshows⟩
  · rw [rowCount_of_suits (suits_of_not_counting hcount)]
    exact reports_affectedRows hbacked hs w
  · exact reports_first? hbacked hs ha

/-- A query that is run at every change. Of its first run, which gave a count, nothing is left in the
second one: if that gives a row, there is no count, and if it is refused, the error has the values of
now. -/
theorem second_run_replaces_first :
    let bind : Value → StatementCall := fun v => .change (.bind v)
    ∃ (s t u : Statement) (past : List Exchange) (o : Outcome) (q : Nat) (e : QueryError),
      Reached [bind (.int 1), .autoExecute true] s ∧ s.execution.affected = some 3 ∧
      Reached [bind (.int 2), bind (.int 1), .autoExecute true] t ∧
      t.execution.Shows t.command.render o q ∧ Produces past t.command.render o ∧
      o.affected? = none ∧ o.contents = [⟨["n"], [.int 5]⟩] ∧
      Reached [bind (.int 2), bind (.int 1), .autoExecute true] u ∧
      u.execution.affected = none ∧ u.execution.lastError = some e ∧
      e.run? = some ⟨"CALL p(?, ?)", [.int 1, .int 2]⟩ := by
  intro bind
  let rows : RowSet := { columns := ["n"], rows := [[.int 5]] }
  let answering (reply : Scripted.Reply) : World Scripted :=
    { driver := { responses := [{ reply }] } }
  have hauto := (Reached.query {} "CALL p(?, ?)").called (w := answering (.outcome (.affected 0)))
    (c := .autoExecute true) rfl
  have hs := hauto.changed (c := .bind (.int 1)) rfl (answering (.outcome (.affected 3)))
  have ht := hs.changed (c := .bind (.int 2)) rfl (answering (.outcome (.rows ⟨rows, []⟩)))
  have hu := hs.changed (c := .bind (.int 2)) rfl (answering (.fail ⟨.other, "locked"⟩))
  obtain ⟨-, hfailed, -⟩ := reached_result_fresh hu
  obtain ⟨e, hlast, hrun⟩ := hfailed rfl (by simp [Unmigrated])
  obtain ⟨-, -, -, ⟨past, hpast⟩, hreports⟩ := reached_result_fresh ht
  obtain ⟨o, q, hproduces, hshows⟩ := (hreports past hpast).1 rfl
  have hcontents : o.affected? = none ∧ o.contents = [⟨["n"], [.int 5]⟩] := by
    obtain ⟨k, hk⟩ := hshows.cursor
    rcases o with ⟨⟨columns, cells, position⟩, faults⟩ | n
    · have hset : rows = ⟨columns, cells, q⟩ :=
        congrArg Cursor.set (Option.some.inj (show some ⟨rows, []⟩ = _ from hk))
      obtain ⟨rfl, rfl, -⟩ := RowSet.mk.inj hset
      exact ⟨rfl, rfl⟩
    · cases hk
  exact ⟨_, _, _, past, o, q, e, hs, rfl, ht, hshows, hproduces, hcontents.1, hcontents.2, hu, rfl,
    hlast, hrun⟩

end Statement

end SqlClient
