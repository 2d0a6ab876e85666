import SqlClient.Proofs.Execution.Handles
import SqlClient.Proofs.Work
import SqlClient.Scripted

/-! # The calls of a count

Rows are counted by a statement that is run on a new execution: its run, the first move of the
cursor that it gets, and the closing of its handle, which comes last and only if that move did not
fail.
-/
namespace SqlClient

def Outcome.firstRow : Outcome → Except DriverError (Option Row)
  | rows c =>
    match c.move .first with
    | (.error e, _) => .error e
    | (.ok found, d) => .ok (if found then d.current else none)
  | affected _ => .ok none

theorem Outcome.firstRow_eq_error {o : Outcome} {e : DriverError} (h : o.firstRow = .error e) :
    ∃ c, o = rows c ∧ (c.move .first).1 = .error e := by
  cases o with
  | affected n => cases h
  | rows c =>
    refine ⟨c, rfl, ?_⟩
    unfold firstRow at h
    dsimp only at h
    cases hm : c.move .first with
    | mk answer d =>
      rw [hm] at h
      cases answer <;> cases h
      rfl

theorem Outcome.firstRow_eq_ok {c : Cursor} {row : Option Row} (h : (rows c).firstRow = .ok row) :
    ∃ found, (c.move .first).1 = .ok found := by
  unfold firstRow at h
  dsimp only at h
  cases hm : c.move .first with
  | mk answer d =>
    rw [hm] at h
    cases answer with
    | error e => cases h
    | ok found => exact ⟨found, rfl⟩

namespace Execution

/-- A count that begins after `n` handles have been asked for, by its calls, its answer, and how many
handles have been asked for then. -/
inductive Counted (r : Rendered) (n : Nat) :
    List Exchange → Except QueryError UInt64 → Nat → Prop where
  | failed {first back second kept calls m e} : Ran r n none first back second kept calls m →
      second.getD first = .error e → Counted r n calls (.error (.ofDriver e r)) m
  | broken {first back second kept calls m o e} : Ran r n none first back second kept calls m →
      second.getD first = .ok o → o.firstRow = .error e →
      Counted r n calls (.error (.ofDriver e r)) m
  | read {first back second k calls m o row} (closed : Except DriverError Unit) :
      Ran r n none first back second (some k) calls m → second.getD first = .ok o →
      o.firstRow = .ok row → Counted r n (calls ++ [.close k closed]) (.ok (countOf row)) m

theorem fetch_first (x : Execution) (hx : x.cursor = none) (o : Outcome) :
    ((x.succeed o).fetch (.move .first)).1 =
      o.firstRow.mapError fun e => .ofDriver e (x.lastRun.getD .empty) := by
  cases o with
  | affected n =>
    unfold fetch succeed
    dsimp only
    rw [hx]
    rfl
  | rows c =>
    unfold Outcome.firstRow
    dsimp only [fetch, succeed, moveOf]
    rcases c.move .first with ⟨e | found, d⟩
    · rfl
    · cases found <;> rfl

section Calls

variable {r : Rendered} {n m : Nat} {calls : List Exchange} {answer : Except QueryError UInt64}
  {held kept : Option Handle} {first : Except DriverError Outcome} {back : Option Bool}
  {second : Option (Except DriverError Outcome)} {o : Outcome}

theorem Attempted.opens {attempt : Except DriverError Outcome}
    (ha : Attempted r n none kept calls attempt m) :
    ∃ a rest, calls = .prepare ⟨n + 1, r.sql⟩ a :: rest := by
  cases ha with
  | reused hh => cases hh
  | unprepared _ hd =>
    cases hd
    exact ⟨_, [], rfl⟩
  | prepared _ hd =>
    cases hd
    exact ⟨_, _, rfl⟩

theorem Ran.opens (hran : Ran r n none first back second kept calls m) :
    ∃ a rest, calls = .prepare ⟨n + 1, r.sql⟩ a :: rest := by
  cases hran with
  | answered ha => exact ha.opens
  | failed ha | refused _ ha | recovered _ ha | gaveUp _ ha =>
    obtain ⟨a, rest, rfl⟩ := ha.opens
    simp

theorem Counted.opens (h : Counted r n calls answer m) :
    ∃ a rest, calls = .prepare ⟨n + 1, r.sql⟩ a :: rest := by
  cases h with
  | failed hran | broken hran => exact hran.opens
  | read closed hran =>
    obtain ⟨a, rest, rfl⟩ := hran.opens
    exact ⟨a, _, rfl⟩

theorem Counted.told (h : Counted r n calls answer m) : Told (· = r) n none none calls m := by
  cases h with
  | failed hran | broken hran => exact hran.told.beside none
  | read closed hran => exact hran.told.trans (Discarded.closed _ closed).told

theorem Counted.answer_of_mem {h : Handle} {row : Option Row} (hc : Counted r n calls answer m)
    (hmem : .execute h (.ok o) ∈ calls) (hrow : o.firstRow = .ok row) :
    answer = .ok (countOf row) := by
  cases hc with
  | failed hran he =>
    rw [hran.ok_of_mem hmem] at he
    cases he
  | broken hran ho he =>
    rw [hran.ok_of_mem hmem] at ho
    cases ho
    rw [hrow] at he
    cases he
  | read closed hran ho hr =>
    rw [hran.ok_of_mem (by simpa using hmem)] at ho
    cases ho
    rw [hrow] at hr
    cases hr
    rfl

end Calls

variable {σ : Type} [Connection σ]

theorem count_counted (x : Execution) (r : Rendered) (w : World σ) :
    ∃ calls, w.Said calls (x.count r w).2 ∧
      Counted r w.prepared calls (x.count r w).1 (x.count r w).2.prepared := by
  obtain ⟨first, back, second, kept, calls, hran, hs, hend⟩ := run_cases x.clone r w
  unfold count
  dsimp only
  generalize x.clone.run r w = a at hran hs hend ⊢
  obtain ⟨result, y, v⟩ := a
  dsimp only at hran hs hend ⊢
  rcases hend with ⟨o, ho, rfl, rfl⟩ | ⟨e, he, rfl, -⟩
  · obtain ⟨k, rfl, -⟩ := hran.kept_of_ok ho
    have hfetch := fetch_first { begin x.clone r with held := some k } rfl o
    have hheld := (succeed { begin x.clone r with held := some k } o).fetch_held (.move .first)
    rw [succeed_held] at hheld
    dsimp only
    generalize (succeed { begin x.clone r with held := some k } o).fetch (.move .first) = p
      at hfetch hheld ⊢
    obtain ⟨got, z⟩ := p
    dsimp only at hfetch hheld ⊢
    subst hfetch
    cases hrow : o.firstRow with
    | error e => exact ⟨calls, hs, .broken hran ho hrow⟩
    | ok row =>
      obtain ⟨closing, hd, hclose, hp⟩ := discard_world { z with cursor := none, fresh := false } v
      have hprepared : (z.close v).2.prepared = v.prepared := hp
      dsimp only at hd
      rw [hheld] at hd
      dsimp only [Except.mapError]
      rw [hprepared]
      cases hd with
      | closed _ closed => exact ⟨_, hs.trans hclose, .read closed hran ho hrow⟩
  · exact ⟨calls, hs, .failed hran he⟩

end Execution

namespace Statement

open Execution (Counted Told)

/-- A statement whose rows are counted by running `r`: what is said to the driver, on handles that
nobody has asked for before, and that the statement itself is left as it was. -/
structure CountedBy {σ : Type} [Connection σ] (s : Statement) (r : Rendered) (w : World σ)
    (calls : List Exchange) : Prop where
  said : w.Said calls (s.rowCount w).world
  unchanged : (s.rowCount w).next = s
  opens : ∃ answer rest, calls = .prepare ⟨w.prepared + 1, r.sql⟩ answer :: rest
  told : Told (· = r) w.prepared none none calls (s.rowCount w).world.prepared
  counted : Counted r w.prepared calls (s.rowCount w).result (s.rowCount w).world.prepared

/-- Whatever the driver answers, the rows are counted by running `r`. -/
def CountsBy (s : Statement) (r : Rendered) : Prop :=
  ∀ (σ : Type) [Connection σ] (w : World σ), ∃ calls, s.CountedBy r w calls

theorem countsBy_of_counting {s : Statement} {r : Rendered}
    (h : s.command.counting? = some r) : s.CountsBy r := by
  intro σ _ w
  have hr := rowCount_of_counting h w
  obtain ⟨calls, hs, hc⟩ := s.execution.count_counted r w
  have said : w.Said calls (s.rowCount w).world := by
    rw [hr]
    exact hs
  have counted : Counted r w.prepared calls (s.rowCount w).result
      (s.rowCount w).world.prepared := by
    rw [hr]
    exact hc
  exact ⟨calls, said, by rw [hr], counted.opens, counted.told, counted⟩

theorem CountsBy.sql_eq {s : Statement} {r r' : Rendered} (h : s.CountsBy r)
    (h' : s.CountsBy r') : r.sql = r'.sql := by
  let w : World Scripted := { driver := {} }
  obtain ⟨calls, hc⟩ := h Scripted w
  obtain ⟨calls', hc'⟩ := h' Scripted w
  obtain ⟨answer, rest, rfl⟩ := hc.opens
  obtain ⟨answer', rest', rfl⟩ := hc'.opens
  have hsame := hc.said.unique hc'.said
  simp only [List.cons.injEq, Exchange.prepare.injEq, Handle.mk.injEq, true_and] at hsame
  exact hsame.1.1

end Statement

end SqlClient
