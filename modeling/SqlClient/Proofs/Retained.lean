import SqlClient.Proofs.Question
import SqlClient.Proofs.Work

/-! # Failures that are kept

A statement keeps the failure of its own run and of its own cursor. Rows that are counted by a
statement of their own are counted on a copy, whose failure is answered and then forgotten.
-/
namespace SqlClient

theorem Execution.count_error {σ : Type} [Connection σ] {x : Execution} {r : Rendered}
    {w : World σ} {e : QueryError} (he : (x.count r w).1 = .error e) : e.run? = some r := by
  have hrun := settled_run x.clone r w True
  unfold count at he
  dsimp only at he
  generalize x.clone.run r w = a at hrun he
  rcases a with ⟨e' | _, y, v⟩
  · cases he
    exact (hrun.error e rfl).2.2 trivial
  · obtain ⟨hs, hl⟩ := hrun.ok () rfl
    have hfetch := reads_fetch (.move .first) y r hs hl
    dsimp only at he hfetch
    generalize y.fetch (.move .first) = p at hfetch he
    rcases p with ⟨e' | row, z⟩
    · cases he
      exact (hfetch.error e rfl).2.2 trivial
    · cases he

/-- The calls that are answered with the result of a run or with its failure. -/
def StatementCall.asks : StatementCall → Bool
  | access _ => true
  | rowCount => true
  | first => true
  | execute => true
  | _ => false

namespace Statement

variable {σ : Type} [Connection σ] {s : Statement} {calls : List StatementCall} {r : Rendered}

theorem suits_of_not_counting (h : s.command.counting? = none) :
    Question.rowCount.Suits s.command := by
  unfold Question.Suits
  cases hc : s.command with
  | select q => simp [hc, Command.counting?] at h
  | raw q => simpa [hc, Command.counting?] using h
  | insert | update | delete => trivial

omit [Connection σ] in
theorem Answers.failed {calm : Prop} {a : After σ Statement Answer} (h : Answers r calm a)
    {e : QueryError} (he : a.result = .failed e) :
    a.next.execution.state = .failed ∧ a.next.execution.lastError = some e := by
  rcases h with ⟨-, -, hok⟩ | ⟨e', hr, hs, hl, -⟩
  · exact absurd he (hok e)
  · rw [hr] at he
    cases he
    exact ⟨hs, hl⟩

omit [Connection σ] in
theorem failed_of_answered {α : Type} {answer : α → Answer} (hf : ∀ b e, answer b ≠ .failed e)
    {a : After σ Statement (Except QueryError α)} {e : QueryError}
    (he : (answered answer a).result = .failed e) : a.result = .error e := by
  rcases a with ⟨e' | b, t, v⟩
  · cases he
    rfl
  · exact absurd he (hf b e)

/-- If a call is answered by a failure, whatever it comes from, the statement has failed and keeps
it. Only the failure of a statement that counts rows is not kept: it is about the counting text, and
the statement is left as it was. -/
theorem failure_retained (h : Reached calls s) {groups : String → Option Conditions} {w : World σ}
    {c : StatementCall} {a : After σ Statement Answer} (hc : s.call? groups w c = some a)
    (hask : c.asks = true) {e : QueryError} (he : a.result = .failed e) :
    (s.counts? c = none →
      a.next.execution.state = .failed ∧ a.next.execution.lastError = some e) ∧
    ∀ r, s.counts? c = some r → a.next = s ∧ e.run? = some r := by
  have hcurrent := reached_current h
  cases c with
  | access acc =>
    cases hc
    exact ⟨fun _ => (hcurrent.access w acc).2.failed he, fun r hr => by cases hr⟩
  | first =>
    obtain ⟨b, hb, rfl⟩ := Option.map_eq_some_iff.mp hc
    exact ⟨fun _ => (hcurrent.first? hb).2.failed he, fun r hr => by cases hr⟩
  | execute =>
    cases hc
    have hrun := failed_of_answered (by simp) he
    obtain ⟨hs, hl, -⟩ := (hcurrent.execute w).2.error e hrun
    exact ⟨fun _ => ⟨hs, hl⟩, fun r hr => by cases hr⟩
  | rowCount =>
    cases hc
    constructor
    · intro hcount
      have hread := rowCount_of_suits (suits_of_not_counting hcount) w
      rw [hread] at he ⊢
      exact ((hcurrent.affectedRows w).answers .count (by simp)).2.failed he
    · intro r hcount
      rw [rowCount_of_counting hcount] at he ⊢
      exact ⟨rfl, Execution.count_error (failed_of_answered (by simp) he)⟩
  | _ => cases hask

/-- A delete that the driver refuses keeps the refusal. -/
theorem refused_delete_keeps_failure :
    ∃ (s : Statement) (w : World Scripted) (a : After Scripted Statement Answer) (e : QueryError),
      Reached [] s ∧ s.call? (fun _ => none) w .rowCount = some a ∧
        StatementCall.rowCount.asks = true ∧ a.result = .failed e ∧ s.counts? .rowCount = none ∧
        a.next.execution.lastError = some e := by
  let w : World Scripted := { driver := { responses := [{ reply := .fail ⟨.other, "locked"⟩ }] } }
  have hs : Reached [] (Table.delete ⟨⟨"t"⟩, {}⟩) := .delete _
  have hcall : (Table.delete ⟨⟨"t"⟩, {}⟩).call? (fun _ => none) w .rowCount = some _ := rfl
  obtain ⟨hkept, -⟩ := failure_retained hs hcall rfl rfl
  exact ⟨_, w, _, _, hs, hcall, rfl, rfl, rfl, (hkept rfl).2⟩

/-- A select whose count is refused answers the refusal and keeps nothing of it. -/
theorem refused_count_not_kept :
    ∃ (s : Statement) (w : World Scripted) (a : After Scripted Statement Answer) (e : QueryError),
      Reached [] s ∧ s.call? (fun _ => none) w .rowCount = some a ∧ a.result = .failed e ∧
        a.next.execution.state = .unexecuted ∧ a.next.execution.lastError = none :=
  ⟨Table.select ⟨⟨"t"⟩, {}⟩,
    { driver := { responses := [{ reply := .fail ⟨.other, "locked"⟩ }] } }, _, _, .select _, rfl,
    rfl, rfl, rfl⟩

end Statement

end SqlClient
