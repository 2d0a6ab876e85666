import Mathlib.Logic.Relation
import SqlClient.Proofs.Execution.Retry

/-! # Executions whose parts agree

An execution is only ever run, held back, reset, closed, read or copied, or given other settings.
Each of these leaves its state, its handle, its result and its error in agreement. -/
namespace SqlClient

namespace Execution

/-- What can happen to an execution. The driver and the world may be others each time. -/
inductive Step (x : Execution) : Execution → Prop where
  | ran {σ : Type} [Connection σ] (r : Rendered) (w : World σ) : Step x (x.run r w).next
  | closed {σ : Type} [Connection σ] (w : World σ) : Step x (x.close w).1
  /-- A failure that comes before the run. -/
  | heldBack (e : QueryError) : Step x (x.fail e)
  | forgotten : Step x x.reset
  | read (f : Fetch) : Step x (x.fetch f).2
  | configured (settings : Settings) : Step x { x with settings }
  | copied : Step x x.clone

def Leads : Execution → Execution → Prop := Relation.ReflTransGen Step

structure Coherent (x : Execution) : Prop where
  cursor_executed : x.cursor.isSome → x.state = .executed
  fresh_cursor : x.fresh = true → x.cursor.isSome
  executed_error : x.state = .executed → x.lastError = none
  /-- Rows or a count, and not both. -/
  executed_result : x.state = .executed → x.cursor.isSome = !x.affected.isSome
  executed_held : x.state = .executed →
    ∃ h r, x.held = some h ∧ x.lastRun = some r ∧ h.text = r.sql
  failed : x.state = .failed → x.cursor = none ∧ ∃ e, x.lastError = some e
  unexecuted : x.state = .unexecuted →
    x.cursor = none ∧ x.affected = none ∧ x.lastError = none
  closed : x.state = .closed → x.cursor = none ∧ x.held = none

/-! ## Runs -/

theorem coherent_run {σ : Type} [Connection σ] (x : Execution) (r : Rendered) (w : World σ) :
    (x.run r w).next.Coherent := by
  obtain ⟨first, back, second, kept, calls, hran, -, ⟨o, ho, -, hn⟩ | ⟨e, -, -, hn⟩⟩ :=
    run_cases x r w
  · obtain ⟨k, rfl, ht⟩ := hran.kept_of_ok ho
    rw [hn]
    cases o <;> constructor <;> simp [begin, succeed, ht]
  · rw [hn]
    constructor <;> simp [fail]

/-! ## Other steps -/

variable {x y : Execution}

theorem coherent_new (settings : Settings) : Coherent { settings } := by
  constructor <;> simp

theorem coherent_fail (x : Execution) (e : QueryError) : (x.fail e).Coherent := by
  constructor <;> simp [fail]

theorem coherent_reset (x : Execution) : x.reset.Coherent := by
  constructor <;> simp [reset]

theorem coherent_close {σ : Type} [Connection σ] (x : Execution) (w : World σ) :
    (x.close w).1.Coherent := by
  unfold close
  dsimp only
  rw [discard_next]
  constructor <;> simp

theorem Coherent.fetch (h : x.Coherent) (f : Fetch) : (x.fetch f).2.Coherent := by
  unfold Execution.fetch
  cases hc : x.cursor with
  | none => exact h
  | some c =>
    have hs : x.state = .executed := h.cursor_executed (by simp [hc])
    have hr := h.executed_result hs
    rw [hc] at hr
    have moved (d : Cursor) : Coherent { x with cursor := some d, fresh := false } :=
      { h with
        cursor_executed := fun _ => hs
        fresh_cursor := by simp
        executed_result := fun _ => hr
        failed := by simp [hs]
        unexecuted := by simp [hs]
        closed := by simp [hs] }
    dsimp only
    split
    · exact hc ▸ moved c
    · split
      · exact moved _
      · exact moved _
      · exact coherent_fail x _

theorem Coherent.configured (h : x.Coherent) (settings : Settings) :
    Coherent { x with settings } :=
  { h with }

theorem Step.coherent (h : Step x y) (hx : x.Coherent) : y.Coherent := by
  cases h with
  | ran r w => exact coherent_run x r w
  | closed w => exact coherent_close x w
  | heldBack e => exact coherent_fail x e
  | forgotten => exact coherent_reset x
  | read f => exact hx.fetch f
  | configured settings => exact hx.configured settings
  | copied => exact coherent_new x.settings

theorem Leads.coherent (h : x.Leads y) (hx : x.Coherent) : y.Coherent := by
  induction h with
  | refl => exact hx
  | tail _ hstep ih => exact hstep.coherent ih

/-! ## Reading several rows -/

def Fetched : Execution → Execution → Prop :=
  Relation.ReflTransGen fun x y => ∃ f, y = (x.fetch f).2

theorem Fetched.one (x : Execution) (f : Fetch) : x.Fetched (x.fetch f).2 := .single ⟨f, rfl⟩

theorem fetched_remaining (budget : Nat) (x : Execution) : x.Fetched (remaining budget x).2 := by
  induction budget generalizing x with
  | zero => exact .refl
  | succ budget ih =>
    have hf := Fetched.one x (.move .next)
    unfold remaining
    split
    · next e y hy => rw [hy] at hf; exact hf
    · next y hy => rw [hy] at hf; exact hf
    · next row y hy =>
      rw [hy] at hf
      have hm := hf.trans (ih y)
      split
      · next e z hz => rw [hz] at hm; exact hm
      · next rows z hz => rw [hz] at hm; exact hm

theorem fetched_all (x : Execution) : x.Fetched x.all.2 := by
  have hf := Fetched.one x (.move .first)
  unfold all
  split
  · next e y hy => rw [hy] at hf; exact hf
  · next y hy => rw [hy] at hf; exact hf
  · next row y hy =>
    rw [hy] at hf
    have hm := hf.trans (fetched_remaining y.rowBound y)
    split
    · next e z hz => rw [hz] at hm; exact hm
    · next rows z hz => rw [hz] at hm; exact hm

end Execution

end SqlClient
