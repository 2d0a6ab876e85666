import SqlClient.Proofs.Counting.Calls

/-! # Handles of statements that nobody holds

To count the rows of a select or to add and drop columns, statements are run that nobody holds
afterwards, so nobody could close their handles later. Each of them is closed before the call
returns, with one exception: a count whose cursor fails at its first move leaves its handle open.
-/
namespace SqlClient

variable {σ : Type}

/-- Every handle that has been prepared between two worlds has been closed again. -/
def World.Tidy (w v : World σ) : Prop := ∃ calls, w.Said calls v ∧ leftOpen [] calls = []

namespace World.Tidy

variable {u v w : World σ}

theorem trans (h : u.Tidy v) (k : v.Tidy w) : u.Tidy w := by
  obtain ⟨cs, hs, hc⟩ := h
  obtain ⟨ds, ks, hd⟩ := k
  exact ⟨cs ++ ds, hs.trans ks, by rw [leftOpen_append, hc, hd]⟩

theorem of_handsOff (h : w.HandsOff v) : w.Tidy v := by
  obtain ⟨calls, hs, hnone, -⟩ := h
  refine ⟨calls, hs, leftOpen_of_idle fun c hc => ?_⟩
  exact Exchange.leaves_of_outside (hnone c hc) []

end World.Tidy

theorem lasting_tidy : World.Lasting (σ := σ) World.Tidy where
  handsOff := World.Tidy.of_handsOff
  trans := World.Tidy.trans

variable [Connection σ]

open World (Tidy)

/-! ## Runs on a new execution -/

namespace Execution

theorem run_new (settings : Settings) (r : Rendered) (w : World σ) :
    ∃ calls, w.Said calls (run { settings } r w).world ∧
      ((∃ k o, leftOpen [] calls = [k] ∧ (run { settings } r w).result = .ok () ∧
          (run { settings } r w).next =
            succeed { begin { settings } r with held := some k } o) ∨
        ∃ e, leftOpen [] calls = [] ∧ (run { settings } r w).result = .error e) := by
  obtain ⟨first, back, second, kept, calls, hran, hs, hend⟩ := run_cases { settings } r w
  have hopened : leftOpen [] calls = kept.toList := hran.leftOpen
  refine ⟨calls, hs, ?_⟩
  rcases hend with ⟨o, ho, hr, hn⟩ | ⟨e, he, hr, -⟩
  · obtain ⟨k, rfl, -⟩ := hran.kept_of_ok ho
    exact Or.inl ⟨k, o, hopened, hr, hn⟩
  · rw [hran.kept_of_error he] at hopened
    exact Or.inr ⟨_, hopened, hr⟩

theorem leftOpen_closed {x : Execution} {k : Handle} {calls : List Exchange} {w v : World σ}
    (hs : w.Said calls v) (hopened : leftOpen [] calls = [k]) (hx : x.held = some k) :
    ∃ answer, w.Said (calls ++ [.close k answer]) (x.close v).2 ∧
      leftOpen [] (calls ++ [.close k answer]) = [] := by
  obtain ⟨answer, hc, -⟩ := close_world hx v
  refine ⟨answer, hs.trans hc, ?_⟩
  rw [leftOpen_append, hopened]
  simp [leftOpen, Exchange.leaves]

/-- A count leaves its handle open if the cursor that it gets fails at the first move, and only
then. -/
theorem count_leftOpen (x : Execution) (r : Rendered) (w : World σ) :
    ∃ calls, w.Said calls (x.count r w).2 ∧
      ((leftOpen [] calls = [] ∧
          ∀ k c, .execute k (.ok (.rows c)) ∈ calls → ∃ found, (c.move .first).1 = .ok found) ∨
        ∃ k c e, leftOpen [] calls = [k] ∧ .execute k (.ok (.rows c)) ∈ calls ∧
          (c.move .first).1 = .error e ∧ (x.count r w).1 = .error (.ofDriver e r)) := by
  obtain ⟨calls, hs, hcounted⟩ := x.count_counted r w
  refine ⟨calls, hs, ?_⟩
  generalize (x.count r w).1 = answer, (x.count r w).2.prepared = m at hcounted ⊢
  cases hcounted with
  | failed hran he =>
    have hopened : leftOpen [] calls = _ := hran.leftOpen
    rw [hran.kept_of_error he] at hopened
    refine Or.inl ⟨hopened, fun k c hmem => ?_⟩
    have hp := hran.ok_of_mem hmem
    rw [he] at hp
    cases hp
  | broken hran ho he =>
    -- The error is answered before the handle is closed.
    obtain ⟨before, k, rfl, hcalls⟩ := hran.last_of_ok ho
    obtain ⟨c, rfl, hmove⟩ := Outcome.firstRow_eq_error he
    exact Or.inr ⟨k, c, _, hran.leftOpen, by simp [hcalls], hmove, rfl⟩
  | @read first back second k calls m o row closed hran ho hrow =>
    have hopened : leftOpen [] calls = [k] := hran.leftOpen
    refine Or.inl ⟨?_, fun l c hmem => ?_⟩
    · rw [leftOpen_append, hopened]
      simp [leftOpen, Exchange.leaves]
    · have hp := hran.ok_of_mem (by simpa using hmem)
      rw [ho] at hp
      cases hp
      exact Outcome.firstRow_eq_ok hrow

end Execution

/-! ## Statements that define columns -/

namespace Table

theorem runOnce_tidy (t : Table) (r : Rendered) (w : World σ) : w.Tidy (t.runOnce r w).2 := by
  obtain ⟨calls, hs, hrun⟩ := Execution.run_new t.settings r w
  unfold runOnce
  dsimp only
  generalize Execution.run { settings := t.settings } r w = a at hs hrun ⊢
  obtain ⟨result, y, v⟩ := a
  dsimp only at hs hrun ⊢
  rcases hrun with ⟨k, o, hopened, rfl, rfl⟩ | ⟨e, hopened, rfl⟩
  · have hheld := Execution.succeed_held
      { Execution.begin { settings := t.settings } r with held := some k } o
    obtain ⟨answer, hsaid, hclosed⟩ := Execution.leftOpen_closed hs hopened hheld
    exact ⟨_, hsaid, hclosed⟩
  · exact ⟨calls, hs, hopened⟩

end Table

/-- To add, drop or ensure columns leaves no handle open. To count the rows of a select by a
statement of its own leaves none open either, unless the cursor that the driver has answered fails
at its first move: then the only handle of the count is left open, and the error of the cursor is
answered. -/
theorem internal_handles_closed :
    (∀ (t : Table) (w : World σ),
      (∀ type column default, w.Tidy (t.addColumn type column default w).2) ∧
        (∀ column, w.Tidy (t.dropColumn column w).2) ∧
        ∀ pairs, w.Tidy (t.ensureColumns pairs w).2) ∧
      ∀ (s : Statement) (r : Rendered), s.command.counting? = some r → ∀ w : World σ,
        ∃ calls, w.Said calls (s.rowCount w).world ∧
          ((leftOpen [] calls = [] ∧
              ∀ k c, .execute k (.ok (.rows c)) ∈ calls →
                ∃ found, (c.move .first).1 = .ok found) ∨
            ∃ k c e, leftOpen [] calls = [k] ∧ .execute k (.ok (.rows c)) ∈ calls ∧
              (c.move .first).1 = .error e ∧ (s.rowCount w).result = .error (.ofDriver e r)) := by
  constructor
  · intro t w
    refine ⟨fun type column default => ?_, fun column => ?_, fun pairs => ?_⟩
    · exact t.addColumn_lasting lasting_tidy (fun a => t.runOnce_tidy _) type column default w
    · exact t.dropColumn_lasting lasting_tidy (fun d => t.runOnce_tidy _) column w
    · exact t.ensureColumns_lasting lasting_tidy (fun a => t.runOnce_tidy _) pairs w
  · intro s r hr w
    rw [Statement.rowCount_of_counting hr]
    exact s.execution.count_leftOpen r w

/-- A count that loses its connection is executed on a second handle, and both are closed. -/
theorem lost_count_closed :
    let rows : RowSet := { columns := ["c"], rows := [[.int 3]] }
    let w : World Scripted :=
      { driver := { responses :=
          [{ reply := .fail ⟨.connectionLost, "gone away"⟩ },
            { reply := .outcome (.rows ⟨rows, []⟩) }] } }
    let s := Table.select ⟨⟨"t"⟩, {}⟩
    s.command.counting? = some (.text "SELECT COUNT(*) FROM `t`") ∧
      (s.rowCount w).world.prepared = 2 ∧ w.Tidy (s.rowCount w).world := by
  intro rows w s
  have hr : s.command.counting? = some (.text "SELECT COUNT(*) FROM `t`") := rfl
  obtain ⟨n, hcount⟩ : ∃ n, (s.rowCount w).result = .ok n := ⟨_, rfl⟩
  obtain ⟨calls, hs, ⟨hclosed, -⟩ | ⟨k, c, e, -, -, -, he⟩⟩ := internal_handles_closed.2 s _ hr w
  · exact ⟨hr, rfl, calls, hs, hclosed⟩
  · rw [hcount] at he
    cases he

/-- A count whose answer cannot be read leaves its handle open. -/
theorem broken_count_left_open :
    ∃ (s : Statement) (w : World Scripted) (calls : List Exchange) (k : Handle),
      s.command.counting?.isSome ∧ w.Said calls (s.rowCount w).world ∧
        k ∈ leftOpen [] calls ∧ (s.rowCount w).next.execution.held = none := by
  let rows : RowSet := { columns := ["c"], rows := [[.int 3]] }
  let w : World Scripted :=
    { driver := { responses :=
        [{ reply := .outcome (.rows ⟨rows, [some ⟨.other, "broken"⟩]⟩) }] } }
  exact ⟨Table.select ⟨⟨"t"⟩, {}⟩, w, [.prepare ⟨1, "SELECT COUNT(*) FROM `t`"⟩ (.ok ()),
    .execute ⟨1, "SELECT COUNT(*) FROM `t`"⟩ (.ok (.rows ⟨rows, [some ⟨.other, "broken"⟩]⟩))],
    _, rfl, rfl, List.mem_singleton.mpr rfl, rfl⟩

end SqlClient
