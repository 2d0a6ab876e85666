import SqlClient.Proofs.Execution.Handles
import SqlClient.Proofs.Execution.Position

/-! # The outcome that is shown

What can be read from an execution comes from one outcome: what the driver answered when the text
of the last run was executed for the last time. A run takes the outcome over as a whole, the rows or
the number of rows that were affected, and a reading only moves among the rows. Everything else
either leaves it alone or ends the state in which there is something to read.
-/
namespace SqlClient

namespace Outcome

def affected? : Outcome → Option UInt64
  | rows _ => none
  | affected n => some n

/-- The rows to be read. There are none where only their number is given. -/
def contents : Outcome → List Row
  | rows c => c.set.contents
  | affected _ => []

def cursor? (o : Outcome) (position k : Nat) : Option Cursor :=
  match o with
  | rows c => some ⟨{ c.set with position }, c.faults.drop k⟩
  | affected _ => none

end Outcome

/-- The text of `r` was executed for the last time right behind its values, all of them bound with
success, and the answer was `o`. -/
def Produces (past : List Exchange) (r : Rendered) (o : Outcome) : Prop :=
  ∃ before k after, past = before ++ k.bound 1 r.binds ++ .execute k (.ok o) :: after ∧
    k.text = r.sql ∧ ∀ l answer, .execute l answer ∈ after → l.text ≠ r.sql

/-- Executions of other texts do not replace an outcome. -/
theorem Produces.append {past calls : List Exchange} {r : Rendered} {o : Outcome}
    (h : Produces past r o) (hc : ∀ k answer, .execute k answer ∈ calls → k.text ≠ r.sql) :
    Produces (past ++ calls) r o := by
  obtain ⟨before, k, after, rfl, htext, hafter⟩ := h
  refine ⟨before, k, after ++ calls, by simp, htext, ?_⟩
  intro l answer hmem
  rcases List.mem_append.mp hmem with hmem | hmem
  · exact hafter l answer hmem
  · exact hc l answer hmem

namespace Execution

/-- What there is to be read is the outcome `o` of a run of `r`, at a position among its rows. -/
structure Shows (x : Execution) (r : Rendered) (o : Outcome) (position : Nat) : Prop where
  executed : x.state = .executed
  lastRun : x.lastRun = some r
  affected : x.affected = o.affected?
  cursor : ∃ k, x.cursor = o.cursor? position k

/-- A reading takes its answer from the outcome, at the position that it leads to, or else it leaves
the execution failed with the error of the cursor. -/
inductive Yields {α : Type} (r : Rendered) (o : Outcome) (answer : Nat → α) :
    Except QueryError α × Execution → Prop where
  | read {y : Execution} (q : Nat) : y.Shows r o q → Yields r o answer (.ok (answer q), y)
  | broken {y : Execution} (e : DriverError) : y.FailedWith (.ofDriver e r) →
      Yields r o answer (.error (.ofDriver e r), y)

variable {x y : Execution} {r : Rendered} {o : Outcome} {p : Nat}

/-! ## Reading -/

theorem Ends.yields {α : Type} {c : Cursor} {k m : Nat} {q : Place} {answer : Nat → α}
    {out : Except QueryError α × Execution}
    (h : Ends c.set r (c.faults.drop k) m (answer q.position) q out) :
    Yields r (.rows c) answer out := by
  cases h with
  | reached _ hy =>
    rw [List.drop_drop] at hy
    exact .read q.position ⟨hy.executed, hy.lastRun, hy.affected, k + m, hy.cursor⟩
  | broken _ hy => exact .broken _ hy

theorem fetch_of_moveOf {c : Cursor} {f : Fetch} {m : Move} (hc : x.cursor = some c)
    (hm : moveOf x.fresh f = some m) :
    x.fetch f = fetch { x with fresh := false } (.move m) := by
  unfold fetch
  rw [hc]
  dsimp only
  rw [hm]
  dsimp only [moveOf]
  rcases c.move m with ⟨_ | found, d⟩
  · rfl
  · cases found <;> rfl

theorem Shows.at_rows {c : Cursor} (h : x.Shows r (.rows c) p) :
    ∃ k, At c.set r { x with fresh := false } ⟨p, false⟩ (c.faults.drop k) := by
  obtain ⟨k, hc⟩ := h.cursor
  exact ⟨k, h.executed, hc, rfl, h.affected, h.lastRun, by simp⟩

theorem Shows.fetch (h : x.Shows r o p) (f : Fetch) :
    Yields r o (fun q => Place.row? o.contents ⟨q, false⟩) (x.fetch f) := by
  cases o with
  | affected n =>
    obtain ⟨_, hc⟩ := h.cursor
    have hnone : x.fetch f = (.ok none, x) := by
      unfold Execution.fetch
      rw [hc]
      rfl
    have hrow : Place.row? (Outcome.affected n).contents ⟨p, false⟩ = none := by
      cases p <;> rfl
    rw [hnone, ← hrow]
    exact .read p h
  | rows c =>
    obtain ⟨k, hat⟩ := h.at_rows
    have hc : x.cursor = some ⟨{ c.set with position := p }, c.faults.drop k⟩ := hat.cursor
    cases hm : moveOf x.fresh f with
    | some m =>
      rw [fetch_of_moveOf hc hm]
      exact Ends.yields (q := ⟨Place.reach c.set.size p m, false⟩) (hat.fetch_move rfl)
    | none =>
      have hcurrent := RowSet.current_eq { c.set with position := p } false
      have hstay : x.fetch f = (.ok (Place.row? c.set.contents ⟨p, false⟩),
          { x with fresh := false }) := by
        unfold Execution.fetch
        simp only [hc, hm, Cursor.current, hcurrent]
        rfl
      rw [hstay]
      exact .read p ⟨h.executed, h.lastRun, h.affected, k, hc⟩

theorem Yields.map {α β : Type} {answer : Nat → α} {out : Except QueryError α × Execution}
    (h : Yields r o answer out) (f : α → β) :
    Yields r o (fun q => f (answer q)) (out.1.map f, out.2) := by
  cases h with
  | read q hy => exact .read q hy
  | broken e hy => exact .broken e hy

theorem Shows.all (h : x.Shows r o p) : Yields r o (fun _ => o.contents) x.all := by
  cases o with
  | affected n =>
    obtain ⟨_, hc⟩ := h.cursor
    have hnone : x.all = (.ok [], x) := by
      unfold Execution.all Execution.fetch
      rw [hc]
      rfl
    rw [hnone]
    exact .read p h
  | rows c =>
    obtain ⟨k, hat⟩ := h.at_rows
    have hfirst := fetch_of_moveOf (x := x) (f := .move .first) hat.cursor rfl
    have hall : x.all = Execution.all { x with fresh := false } := by
      unfold Execution.all
      rw [hfirst]
    rw [hall]
    exact Ends.yields hat.all

/-! ## What shows an outcome goes on showing it -/

/-- If there is something to be read, it is the last outcome of a rendering of its own. -/
def Grounded (own : Rendered → Prop) (past : List Exchange) (x : Execution) : Prop :=
  x.state = .executed → ∃ r o p, own r ∧ Produces past r o ∧ x.Shows r o p

variable {own errand : Rendered → Prop} {past calls : List Exchange}

theorem grounded_of_state (hs : x.state ≠ .executed) : x.Grounded own past := fun he =>
  absurd he hs

theorem Grounded.append (h : x.Grounded own past)
    (hc : ∀ r, own r → ∀ k answer, .execute k answer ∈ calls → k.text ≠ r.sql) :
    x.Grounded own (past ++ calls) := by
  intro hs
  obtain ⟨r, o, p, hown, hpast, hshows⟩ := h hs
  exact ⟨r, o, p, hown, hpast.append (hc r hown), hshows⟩

theorem Grounded.fetch (h : x.Grounded own past) (f : Fetch) :
    (x.fetch f).2.Grounded own past := by
  by_cases hs : x.state = .executed
  · obtain ⟨r, o, p, hown, hpast, hshows⟩ := h hs
    have hyields := hshows.fetch f
    generalize x.fetch f = out at hyields
    cases hyields with
    | read q hy => exact fun _ => ⟨r, o, q, hown, hpast, hy⟩
    | broken e hy =>
      apply grounded_of_state
      simp [hy.state]
  · -- What has not been executed is not executed by a reading.
    apply grounded_of_state
    unfold Execution.fetch
    split
    · exact hs
    · split
      · exact hs
      · split
        · exact hs
        · exact hs
        · simp [fail]

section Run

variable {n m : Nat} {held kept : Option Handle} {first : Except DriverError Outcome}
  {back : Option Bool} {second : Option (Except DriverError Outcome)}

theorem Ran.produces (hran : Ran r n held first back second kept calls m)
    (ho : second.getD first = .ok o) (past : List Exchange) : Produces (past ++ calls) r o := by
  obtain ⟨bound, k, -, rfl⟩ := hran.last_of_ok ho
  obtain ⟨r', earlier, rfl, htext, rfl⟩ := hran.executes bound _ [] rfl k _ rfl
  exact ⟨past ++ earlier, k, [], by simp, htext, by simp⟩

/-- Nothing of an earlier run is left beside the outcome of a new one. -/
theorem shows_succeed (x : Execution) (r : Rendered) (kept : Option Handle) (o : Outcome) :
    ∃ p, (succeed { x.begin r with held := kept } o).Shows r o p := by
  cases o with
  | rows c => exact ⟨c.set.position, rfl, rfl, rfl, 0, rfl⟩
  | affected n => exact ⟨0, rfl, rfl, rfl, 0, rfl⟩

end Run

variable {σ : Type} [Connection σ]

theorem run_grounded (x : Execution) (hown : own r) (w : World σ) (past : List Exchange) :
    ∃ said, w.Said said (x.run r w).world ∧ (x.run r w).next.Grounded own (past ++ said) := by
  obtain ⟨_, _, _, kept, said, hran, hsaid, ⟨o, ho, -, hn⟩ | ⟨e, -, -, hn⟩⟩ := run_cases x r w
  · obtain ⟨p, hshows⟩ := shows_succeed x r kept o
    rw [hn]
    exact ⟨said, hsaid, fun _ => ⟨r, o, p, hown, hran.produces ho past, hshows⟩⟩
  · refine ⟨said, hsaid, grounded_of_state ?_⟩
    simp [hn, fail]

/-- Errands run other texts than the execution itself. -/
def Apart (own errand : Rendered → Prop) : Prop := ∀ r e, own r → errand e → e.sql ≠ r.sql

theorem Acts.grounded {early : QueryError → Prop} {u v : World σ}
    (h : Acts own errand early x u y v) (hapart : Apart own errand)
    (hx : x.Grounded own past) :
    ∃ said, u.Said said v ∧ y.Grounded own (past ++ said) := by
  induction h with
  | rest => exact ⟨[], .refl _, by simpa using hx⟩
  | beside _ he ih =>
    obtain ⟨said, hs, hy⟩ := ih
    obtain ⟨calls, hc, htold⟩ := errands_told he
    refine ⟨said ++ calls, hs.trans hc, ?_⟩
    rw [← List.append_assoc]
    apply hy.append
    intro r hown k answer hmem
    obtain ⟨before, after, hsplit⟩ := List.append_of_mem hmem
    obtain ⟨e, -, herrand, htext, -⟩ := htold.executes before _ after hsplit k answer rfl
    rw [htext]
    exact hapart r e hown herrand
  | @ran y u v r _ hown ih =>
    obtain ⟨said, hs, -⟩ := ih
    obtain ⟨calls, hc, hz⟩ := run_grounded y hown v (past ++ said)
    rw [List.append_assoc] at hz
    exact ⟨said ++ calls, hs.trans hc, hz⟩
  | @closed y u v _ ih =>
    obtain ⟨said, hs, -⟩ := ih
    obtain ⟨calls, -, hc, -⟩ := discard_world { y with cursor := none, fresh := false } v
    exact ⟨said ++ calls, hs.trans hc, grounded_of_state (by simp [close])⟩
  | heldBack _ _ ih =>
    obtain ⟨said, hs, -⟩ := ih
    exact ⟨said, hs, grounded_of_state (by simp [fail])⟩
  | forgotten _ ih =>
    obtain ⟨said, hs, -⟩ := ih
    exact ⟨said, hs, grounded_of_state (by simp [reset])⟩
  | read f _ ih =>
    obtain ⟨said, hs, hy⟩ := ih
    exact ⟨said, hs, hy.fetch f⟩
  | configured settings _ ih =>
    obtain ⟨said, hs, hy⟩ := ih
    refine ⟨said, hs, fun he => ?_⟩
    obtain ⟨r, o, p, hown, hpast, hshows⟩ := hy he
    exact ⟨r, o, p, hown, hpast, hshows.executed, hshows.lastRun, hshows.affected, hshows.cursor⟩

end Execution

end SqlClient
