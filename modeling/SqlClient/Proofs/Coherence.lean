import SqlClient.Proofs.Work
import SqlClient.Scripted

/-! # Statements whose executions agree

Whatever is called on a statement, its execution only makes steps that executions make. So its
state, its handle, its result and its error agree in every reachable state, and to execute ends
either executed or failed with the error that is given back.
-/
namespace SqlClient

namespace Statement

open Execution (Acts Leads)

variable {σ : Type} [Connection σ] {s : Statement}

theorem reached_leads {calls : List StatementCall} (h : Reached calls s) :
    ∃ settings : Settings, Leads { settings } s.execution := by
  induction h with
  | select t => exact ⟨t.settings, .refl⟩
  | update t => exact ⟨t.settings, .refl⟩
  | delete t => exact ⟨t.settings, .refl⟩
  | @insert _ _ t w s h =>
    obtain ⟨required, rfl⟩ := Table.eq_of_insert_ok h
    exact ⟨t.settings, .refl⟩
  | query settings sql => exact ⟨settings, .refl⟩
  | clone _ ih =>
    obtain ⟨settings, hx⟩ := ih
    exact ⟨settings, hx.tail .copied⟩
  | call _ h hc ih =>
    obtain ⟨settings, hx⟩ := ih
    have hacts : Acts (fun _ => True) (fun _ => True) (fun _ => True) _ _ _ _ :=
      call?_acts hc (reached_current h).toFaithful (fun _ _ => trivial) .of_everything
        fun _ _ => trivial
    exact ⟨settings, hx.trans hacts.leads⟩

/-- The parts of a reachable execution agree with its state, and so do those of every execution that
it leads to, the copies that count rows included. To execute ends executed, or failed with the
error that is given back. -/
theorem reached_execution_coherent {calls : List StatementCall} (h : Reached calls s) :
    s.execution.Coherent ∧
      (∀ x, s.execution.Leads x → x.Coherent) ∧
      ∀ {σ : Type} [Connection σ] (w : World σ),
        ((s.execute w).result = .ok () → (s.execute w).next.execution.state = .executed) ∧
        ∀ e, (s.execute w).result = .error e →
          (s.execute w).next.execution.state = .failed ∧
            (s.execute w).next.execution.lastError = some e := by
  obtain ⟨settings, hx⟩ := reached_leads h
  have hc : s.execution.Coherent := hx.coherent (Execution.coherent_new settings)
  refine ⟨hc, fun x hl => hl.coherent hc, fun w => ?_⟩
  obtain ⟨-, hs⟩ := (reached_current h).toFaithful.execute w
  constructor
  · intro hr
    exact (hs.ok () hr).1
  · intro e hr
    obtain ⟨hf, hl, -⟩ := hs.error e hr
    exact ⟨hf, hl⟩

/-- A select is run for three rows, and its cursor fails on the second of them. Executed again, it
fails at the driver. -/
theorem broken_cursor_leaves_coherent_select :
    let rows : RowSet := { columns := ["a"], rows := [[.int 1], [.int 2], [.int 3]] }
    let w : World Scripted :=
      { driver := { responses :=
          [{ reply := .outcome (.rows ⟨rows, [none, some ⟨.other, "broken"⟩]⟩) },
            { reply := .fail ⟨.other, "no such table"⟩ }] } }
    let a := (Table.select ⟨⟨"t"⟩, {}⟩).access w .set
    Reached [.access .set] a.next ∧ a.next.execution.state = .failed ∧
      a.next.execution.Coherent ∧
      ∃ e, (a.next.execute a.world).result = .error e ∧
        (a.next.execute a.world).next.execution.lastError = some e := by
  intro rows w a
  have hc : (Table.select ⟨⟨"t"⟩, {}⟩).call? (fun _ => none) w (.access .set) = some a := rfl
  have hs : Reached [.access .set] a.next :=
    .call (fun _ _ hg => (Option.some_ne_none _ hg.symm).elim) (.select _) hc
  obtain ⟨hx, -, hrun⟩ := reached_execution_coherent hs
  have he : (a.next.execute a.world).result =
      .error (.driver ⟨.other, "no such table"⟩ (.text "SELECT * FROM `t`")) := rfl
  exact ⟨hs, rfl, hx, _, he, ((hrun a.world).2 _ he).2⟩

end Statement

end SqlClient
