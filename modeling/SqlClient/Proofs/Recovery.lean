import SqlClient.Proofs.Parallel.Numbering
import SqlClient.Proofs.Recovery.Catalog

/-! # Losses of the connection that cannot be noticed

A run that loses the connection, and succeeds on the connection that is made again, leaves what the
same run leaves when it succeeds at once, but for the number of its handle. Nothing that is called
later tells the two apart, as long as the drivers give the same answers.
-/
namespace SqlClient

namespace Execution

variable {σ : Type} [Connection σ]

/-- The first attempt at a run succeeds, with outcome `o`. -/
def SucceedsAtOnce (x : Execution) (r : Rendered) (w : World σ) (o : Outcome) : Prop :=
  ∃ kept calls m, w.Said calls (x.run r w).world ∧
    Ran r w.prepared x.held (.ok o) none none kept calls m

/-- The first attempt at a run loses the connection, which is made again, and the second attempt
succeeds, with outcome `o`. -/
def SucceedsAfterLoss (x : Execution) (r : Rendered) (w : World σ) (o : Outcome) : Prop :=
  ∃ e kept calls m, w.Said calls (x.run r w).world ∧
    Ran r w.prepared x.held (.error e) (some true) (some (.ok o)) kept calls m

end Execution

namespace Statement

/-- A loss of the connection that a run or a read of the catalog recovers from cannot be noticed.
The run leaves the same state, cursor, count, error and text, and a handle for the same text; from
then on every call on the statement, and every run, is answered as it would be without the loss, if
the drivers answer alike to calls on corresponding handles. What is read from the catalog, or made of
it, is the same. -/
theorem recovered_loss_invisible :
    (∀ (s : Statement) (r : Rendered) (o : Outcome) {σ τ : Type} [Connection σ] [Connection τ]
      (w : World σ) (v : World τ),
      s.execution.SucceedsAtOnce r w o → s.execution.SucceedsAfterLoss r v o →
      (s.execution.run r w).result = .ok () ∧ (s.execution.run r v).result = .ok () ∧
      ∃ h k : Handle, h.text = r.sql ∧ k.text = r.sql ∧
        (s.execution.run r w).next.held = some h ∧
        (s.execution.run r v).next = { (s.execution.run r w).next with held := some k } ∧
        ∀ {σ' τ' : Type} [Connection σ'] [Connection τ'] {K : Handle → Handle → Prop}
          {R : σ' → τ' → Prop}, Consonant K R → K h k →
          ∀ {s' t' : Statement} {w' : World σ'} {v' : World τ'},
            Apace K R { s with execution := (s.execution.run r w).next }
              { s with execution := (s.execution.run r v).next } s' w' t' v' →
            (∀ groups c,
              (s'.call? groups w' c).map After.result = (t'.call? groups v' c).map After.result) ∧
            ∀ r', (s'.execution.run r' w').result = (t'.execution.run r' v').result) ∧
    ∀ t : Table,
      (LossInvisible fun _ _ w => t.isListed w) ∧
      (LossInvisible fun _ _ w => Columns.load t w) ∧
      (∀ c : Columns, LossInvisible fun _ _ w =>
        ((c.refresh w).result.map fun _ => (c.refresh w).next, (c.refresh w).world)) ∧
      (LossInvisible fun _ _ w => t.insert w) ∧
      LossInvisible fun _ _ w => t.primaryKey w := by
  refine ⟨?_, fun t => ⟨t.isListed_lossInvisible, Columns.load_lossInvisible t,
    Columns.refresh_lossInvisible, t.insert_lossInvisible, t.primaryKey_lossInvisible⟩⟩
  intro s r o σ τ _ _ w v hw hv
  obtain ⟨_, _, _, hsaid, hran⟩ := hw
  obtain ⟨_, _, _, _, hsaid', hran'⟩ := hv
  obtain ⟨hresult, h, hh, hnext⟩ := Execution.run_of_ran hsaid hran rfl
  obtain ⟨hresult', k, hk, hnext'⟩ := Execution.run_of_ran hsaid' hran' rfl
  have hheld : (s.execution.run r w).next.held = some h := by
    rw [hnext]
    cases o <;> rfl
  have hsame : (s.execution.run r v).next =
      { (s.execution.run r w).next with held := some k } := by
    rw [hnext, hnext']
    cases o <;> rfl
  refine ⟨hresult, hresult', h, k, hh, hk, hheld, hsame, ?_⟩
  intro σ' τ' _ _ K R hR hhk s' t' w' v' hapace
  have halike : Alike id K { s with execution := (s.execution.run r w).next }
      { s with execution := (s.execution.run r v).next } := by
    rw [hsame]
    exact alike_of_held hheld hhk
  obtain ⟨hs', hworld⟩ := hapace.alike hR halike
  constructor
  · intro groups c
    have hcall := call?_alike hR.likeness hworld hs' groups c
    generalize s'.call? groups w' c = p, t'.call? groups v' c = q at hcall
    cases hcall with
    | none => rfl
    | some hcall => exact congrArg some hcall.result
  · intro r'
    exact (Execution.run_alike hR.likeness hworld hs'.execution r').result

/-- The connection is lost while the value of a delete is bound, and while the columns of a table are
read for an insert. Afterwards the delete tells as if that had not happened, and the insert is the
same. -/
theorem delete_lost_at_bind_unnoticed :
    let t : Table := ⟨⟨"t"⟩, {}⟩
    let s := t.delete
    let r : Rendered := ⟨"DELETE FROM `t` WHERE `a` = ?", [.int 1]⟩
    let lost : DriverError := ⟨.connectionLost, "gone away"⟩
    let d : Scripted := { tables := [("t", [])], responses := [{ reply := .outcome (.affected 2) }] }
    let w : World Scripted := { driver := d }
    let v : World Scripted := { driver := { d with bindFaults := [some lost] } }
    let u : World Scripted := { driver := { d with catalogFaults := [none, some lost] } }
    let after (w : World Scripted) : Statement :=
      { s with execution := (s.execution.run r w).next }
    s.execution.SucceedsAtOnce r w (.affected 2) ∧
      s.execution.SucceedsAfterLoss r v (.affected 2) ∧
      (s.execution.run r w).result = .ok () ∧ (s.execution.run r v).result = .ok () ∧
      (∃ h k : Handle, h.text = r.sql ∧ k.text = r.sql ∧
        (s.execution.run r v).next = { (s.execution.run r w).next with held := some k } ∧
        ((after w).call? (fun _ => none) (s.execution.run r w).world (.access .affectedRows)).map
            After.result =
          ((after v).call? (fun _ => none) (s.execution.run r v).world (.access .affectedRows)).map
            After.result) ∧
      ∃ cs ds, w.Said cs (t.insert w).2 ∧ u.Said ds (t.insert u).2 ∧ Recovers cs ds ∧
        ∃ q, (t.insert w).1 = .ok q ∧ (t.insert u).1 = .ok q := by
  intro t s r lost d w v u after
  have hfresh : ¬ Execution.Reusable none r.sql := by
    rintro ⟨_, hh, -⟩
    cases hh
  have hbound (k : Handle) :
      Execution.Bound k 1 r.binds [.bind k 1 (.int 1) (.ok ())] (.ok ()) := .next (.all 2)
  have hdone (n : Nat) := Execution.Attempted.prepared (n := n) hfresh .nothing
    (.executed (.ok (.affected 2)) (hbound ⟨n + 1, r.sql⟩))
  have hlost := Execution.Attempted.prepared (n := 0) hfresh .nothing
    (.refused (.refused 1 (.int 1) [] lost))
  have hw : s.execution.SucceedsAtOnce r w (.affected 2) := by
    refine ⟨_, _, _, ?_, .answered (hdone 0)⟩
    rfl
  have hv : s.execution.SucceedsAfterLoss r v (.affected 2) := by
    refine ⟨_, _, _, _, ?_, .recovered false hlost rfl (.closed _ (.ok ())) (hdone 1)⟩
    rfl
  obtain ⟨hrun, hcatalog⟩ := recovered_loss_invisible
  obtain ⟨hresult, hresult', h, k, hh, hk, -, hsame, hlater⟩ := hrun s r (.affected 2) w v hw hv
  obtain ⟨-, -, -, hinsert, -⟩ := hcatalog t
  have hread : w.Said [.listTables (.ok ["t"]), .describeColumns "t" (.ok [])] (t.insert w).2 := by
    dsimp only [t, w, d]
    rfl
  have hreread : u.Said [.listTables (.ok ["t"]), .describeColumns "t" (.error lost),
      .isAlive false, .reconnect true, .describeColumns "t" (.ok [])] (t.insert u).2 := by
    dsimp only [t, u, d]
    rfl
  have hrecovers : Recovers [.listTables (.ok ["t"]), .describeColumns "t" (.ok [])] _ :=
    .listed (.describedAgain (e := lost) false rfl .done)
  refine ⟨hw, hv, hresult, hresult', ⟨h, k, hh, hk, hsame, ?_⟩, _, _, hread, hreread, hrecovers,
    hinsert hread hreread hrecovers⟩
  have hR : Consonant (fun h k => k.text = h.text) Scripted.Resembles :=
    Scripted.consonant_resembles id
  have hstep : World.InStep (fun h k => k.text = h.text) Scripted.Resembles
      (s.execution.run r w).world (s.execution.run r v).world :=
    ⟨⟨rfl, rfl, rfl, rfl, rfl, rfl⟩, fun _ _ => rfl⟩
  exact (hlater hR (hk.trans hh.symm) (.start hstep)).1 (fun _ => none) (.access .affectedRows)

end Statement

end SqlClient
