import SqlClient.Proofs.Coherence
import SqlClient.Proofs.Target
import SqlClient.Scripted

/-! # The count of a statement that has failed

A run begins by forgetting the count of the one before, so nothing is left of that when the run
fails, or when its cursor fails later on. A statement that is held back has not begun a run, and
keeps whatever count it has.
-/
namespace SqlClient

namespace Execution

/-- A failed execution has no count, unless an early error has kept it from running. -/
def Cleared (early : QueryError → Prop) (x : Execution) : Prop :=
  x.state = .failed → ∃ e, x.lastError = some e ∧ (x.affected = none ∨ early e)

variable {early : QueryError → Prop} {x y : Execution}

theorem cleared_of_state (hx : x.state ≠ .failed) : x.Cleared early := by
  intro hf
  exact absurd hf hx

theorem run_affected {σ : Type} [Connection σ] {r : Rendered} {w : World σ} {e : QueryError}
    (he : (x.run r w).result = .error e) : (x.run r w).next.affected = none := by
  obtain ⟨_, _, _, _, _, -, -, ⟨o, -, hr, -⟩ | ⟨_, -, -, hn⟩⟩ := run_cases x r w
  · rw [hr] at he
    cases he
  · rw [hn]
    rfl

theorem cleared_run {σ : Type} [Connection σ] (x : Execution) (r : Rendered) (w : World σ) :
    (x.run r w).next.Cleared early := by
  intro hf
  have hrun := settled_run x r w False
  cases hr : (x.run r w).result with
  | ok u =>
    have hs := (hrun.ok u hr).1
    rw [hf] at hs
    cases hs
  | error e => exact ⟨e, (hrun.error e hr).2.1, Or.inl (run_affected hr)⟩

theorem Cleared.fetch (h : x.Cleared early) (hx : x.Coherent) (f : Fetch) :
    (x.fetch f).2.Cleared early := by
  unfold Execution.fetch
  cases hc : x.cursor with
  | none => exact h
  | some c =>
    have hs : x.state = .executed := hx.cursor_executed (by simp [hc])
    have hcount : x.affected = none := by
      have hresult := hx.executed_result hs
      rw [hc] at hresult
      simpa using hresult
    have moved (d : Option Cursor) : Cleared early { x with cursor := d, fresh := false } :=
      cleared_of_state (by simp [hs])
    dsimp only
    split
    · exact hc ▸ moved x.cursor
    · split
      · exact moved _
      · exact moved _
      · exact fun _ => ⟨_, rfl, Or.inl hcount⟩

theorem Acts.cleared {σ : Type} [Connection σ] {own errand : Rendered → Prop} {u v : World σ}
    (h : Acts own errand early x u y v) (hc : x.Coherent) (hx : x.Cleared early) :
    y.Cleared early := by
  induction h with
  | rest => exact hx
  | beside _ _ ih => exact ih
  | ran r _ _ _ => exact cleared_run _ r _
  | closed _ _ => exact cleared_of_state (by simp [close])
  | heldBack _ he _ => exact fun _ => ⟨_, rfl, Or.inr he⟩
  | forgotten _ _ => exact cleared_of_state (by simp [reset])
  | read f hy ih => exact ih.fetch (hy.leads.coherent hc) f
  | configured settings _ ih => exact ih

end Execution

namespace Statement

variable {s : Statement} {calls : List StatementCall}

/-- The errors that hold a statement back. -/
def Early (s : Statement) (e : QueryError) : Prop := ∃ t, s.command.target? = some t ∧ t.HoldsBack e

theorem reached_cleared (h : Reached calls s) : s.execution.Cleared s.Early := by
  induction h with
  | select | update | delete | query | clone =>
    intro hf
    cases hf
  | insert h =>
    obtain ⟨required, rfl⟩ := Table.eq_of_insert_ok h
    intro hf
    cases hf
  | @call _ _ _ s groups w c a _ h hc ih =>
    have hacts : Execution.Acts (fun _ => True) (fun _ => True) s.Early s.execution w
        a.next.execution a.world :=
      call?_acts hc (reached_current h).toFaithful (fun _ _ => trivial)
        ⟨fun _ _ _ _ => trivial, fun t ht e he => ⟨t, ht, he⟩⟩ fun _ _ => trivial
    -- A call keeps the table, so it keeps the errors that may come before a run as well.
    have hsame : a.next.Early = s.Early := by
      unfold Early
      rw [call?_command hc, Command.kept_target?.after]
    rw [hsame]
    exact hacts.cleared (reached_execution_coherent h).1 ih

/-- A statement that has failed has the error of that. It only has a count as well if that error has
held it back, and not if the error comes of its own run. To execute it again leaves the execution as
it is, but for the failure, if it is held back, and forgets the count if its run fails. -/
theorem failed_count_only_when_held_back (h : Reached calls s) :
    (s.execution.state = .failed → ∃ e, s.execution.lastError = some e ∧
        (s.execution.affected = none ∨ ∃ t, s.command.target? = some t ∧ t.HoldsBack e) ∧
        ∀ d, e = .ofDriver d s.rendered → s.execution.affected = none) ∧
      ∀ {σ : Type} [Connection σ] (w : World σ),
        (∀ e, (s.preflight w).1 = .error e →
          (s.execute w).result = .error e ∧
            (s.execute w).next.execution = s.execution.fail e ∧
            (s.execute w).next.execution.affected = s.execution.affected) ∧
        ((s.preflight w).1 = .ok () → ∀ e, (s.execute w).result = .error e →
          (s.execute w).next.execution.affected = none) := by
  constructor
  · intro hf
    obtain ⟨e, he, hcount⟩ := reached_cleared h hf
    refine ⟨e, he, hcount, ?_⟩
    rintro d rfl
    rw [(reached_current h).rendered] at hcount
    rcases hcount with hnone | ⟨t, ht, hback⟩
    · exact hnone
    · exact absurd hback (Command.not_holdsBack_ofDriver ht d)
  · intro σ _ w
    have hready : s.keepRendered.preflight w = s.preflight w := rfl
    unfold Statement.execute
    dsimp only
    rw [hready]
    constructor
    · intro e he
      rw [he]
      exact ⟨rfl, rfl, rfl⟩
    · intro hok e he
      rw [hok] at he ⊢
      exact Execution.run_affected he

/-- An update has been executed for three rows, and is refused by the driver the next time. -/
theorem refused_update_has_no_count :
    ∃ (s : Statement) (w : World Scripted) (calls : List StatementCall),
      Reached calls s ∧ s.execution.affected = some 3 ∧
        Reached (.execute :: calls) (s.execute w).next ∧
        (s.execute w).next.execution.state = .failed ∧
        (s.execute w).next.execution.affected = none := by
  let w : World Scripted := { driver := { responses := [{ reply := .outcome (.affected 3) }] } }
  let v : World Scripted := { driver := { responses := [{ reply := .fail ⟨.other, "locked"⟩ }] } }
  have hvalue : Reached [.change (.value ⟨"a"⟩ (.int 1))] _ :=
    (Reached.update ⟨⟨"t"⟩, {}⟩).changed rfl w
  have hrun := hvalue.executed w
  have hrefused := hrun.executed v
  obtain ⟨e, he, -, hnone⟩ := (failed_count_only_when_held_back hrefused).1 rfl
  exact ⟨_, v, _, hrun, rfl, hrefused, rfl, hnone ⟨.other, "locked"⟩ (Option.some.inj he).symm⟩

/-- An update has been executed for three rows. Then it has to add columns first, and the catalog
cannot be read. It has failed, and still tells of three rows. -/
theorem held_back_update_keeps_count :
    ∃ (s : Statement) (calls : List StatementCall), Reached calls s ∧
      s.execution.state = .failed ∧ s.execution.affected = some 3 := by
  let w : World Scripted := { driver := { responses := [{ reply := .outcome (.affected 3) }] } }
  let v : World Scripted := { driver := { catalogFaults := [some ⟨.other, "locked"⟩] } }
  have hvalue : Reached [.change (.value ⟨"a"⟩ (.int 1))] _ :=
    (Reached.update ⟨⟨"t"⟩, {}⟩).changed rfl w
  have hrun := hvalue.executed w
  have hmigrates := hrun.called (show call? _ _ v (.autoMigrate true) = some _ from rfl)
  exact ⟨_, _, hmigrates.executed v, rfl, rfl⟩

end Statement

end SqlClient
