import SqlClient.Proofs.Execution.Work
import SqlClient.Proofs.Parallel.Likeness

/-! # Executions side by side

A run in one world and the same run in a world like it. The handles that are held correspond, and
settings may differ in how statements are logged. Results, what is kept, and whether the handle is
used again are the same.
-/
namespace SqlClient

namespace Execution

def recast (g : Bool → Bool) (k : Option Handle) (x : Execution) : Execution :=
  { x with settings := x.settings.mapDebug g, held := k }

/-- Executions that differ in how statements are logged and in their handles, which correspond. -/
inductive Alike (g : Bool → Bool) (K : Handle → Handle → Prop) (x : Execution) :
    Execution → Prop where
  | recast {k : Option Handle} : Option.Rel K x.held k → Alike g K x (x.recast g k)

section Data

variable (g : Bool → Bool) (k : Option Handle) (x : Execution)

@[simp] theorem recast_cursor : (x.recast g k).cursor = x.cursor := rfl

@[simp] theorem recast_fresh : (x.recast g k).fresh = x.fresh := rfl

@[simp] theorem recast_lastRun : (x.recast g k).lastRun = x.lastRun := rfl

theorem fetch_recast (f : Fetch) :
    (x.recast g k).fetch f = ((x.fetch f).1, (x.fetch f).2.recast g k) := by
  unfold fetch
  rw [recast_cursor, recast_fresh, recast_lastRun]
  cases x.cursor with
  | none => rfl
  | some c =>
    dsimp only
    cases moveOf x.fresh f with
    | none => rfl
    | some m =>
      dsimp only
      rcases c.move m with ⟨(e | (_ | _)), c'⟩ <;> rfl

theorem remaining_recast (budget : Nat) (x : Execution) :
    remaining budget (x.recast g k) =
      ((remaining budget x).1, (remaining budget x).2.recast g k) := by
  induction budget generalizing x with
  | zero => rfl
  | succ budget ih =>
    rw [remaining, remaining, fetch_recast]
    rcases x.fetch (.move .next) with ⟨(e | (_ | row)), y⟩
    · rfl
    · rfl
    · dsimp only
      rw [ih]
      rcases remaining budget y with ⟨(e | rows), z⟩ <;> rfl

theorem all_recast : (x.recast g k).all = (x.all.1, x.all.2.recast g k) := by
  rw [all, all, fetch_recast]
  rcases x.fetch (.move .first) with ⟨(e | (_ | row)), y⟩
  · rfl
  · rfl
  · dsimp only
    rw [show (y.recast g k).rowBound = y.rowBound from rfl, remaining_recast]
    rcases remaining y.rowBound y with ⟨(e | rows), z⟩ <;> rfl

end Data

namespace Alike

variable {g : Bool → Bool} {K : Handle → Handle → Prop} {x y : Execution}

theorem held (hx : x.Alike g K y) : Option.Rel K x.held y.held := by
  cases hx with
  | recast hk => exact hk

theorem state (hx : x.Alike g K y) : y.state = x.state := by
  cases hx
  rfl

theorem lastError (hx : x.Alike g K y) : y.lastError = x.lastError := by
  cases hx
  rfl

theorem reading {α : Type} {reading : Execution → Except QueryError α × Execution}
    (hr : ∀ x k, reading (x.recast g k) = ((reading x).1, (reading x).2.recast g k))
    (hk : ∀ x, (reading x).2.held = x.held) (hx : x.Alike g K y) :
    (reading y).1 = (reading x).1 ∧ (reading x).2.Alike g K (reading y).2 := by
  cases hx with
  | recast h =>
    rw [hr]
    rw [← hk] at h
    exact ⟨rfl, .recast h⟩

theorem drop (hx : x.Alike g K y) : Alike g K { x with held := none } { y with held := none } := by
  cases hx with
  | recast => exact .recast (k := none) .none

theorem hold (hx : x.Alike g K y) {h k : Handle} (hk : K h k) :
    Alike g K { x with held := some h } { y with held := some k } := by
  cases hx with
  | recast => exact .recast (k := some k) (.some hk)

theorem clone (hx : x.Alike g K y) : x.clone.Alike g K y.clone := by
  cases hx with
  | recast => exact .recast (k := none) .none

theorem begin (hx : x.Alike g K y) (r : Rendered) : (x.begin r).Alike g K (y.begin r) := by
  cases hx with
  | recast hk => exact .recast (x := x.begin r) hk

theorem succeed (hx : x.Alike g K y) (o : Outcome) : (x.succeed o).Alike g K (y.succeed o) := by
  cases hx with
  | recast hk => cases o <;> exact .recast (x := x.succeed _) hk

theorem fail (hx : x.Alike g K y) (e : QueryError) : (x.fail e).Alike g K (y.fail e) := by
  cases hx with
  | recast hk => exact .recast (x := x.fail e) hk

theorem reset (hx : x.Alike g K y) : x.reset.Alike g K y.reset := by
  cases hx with
  | recast hk => exact .recast (x := x.reset) hk

theorem unread (hx : x.Alike g K y) :
    Alike g K { x with cursor := none, fresh := false }
      { y with cursor := none, fresh := false } := by
  cases hx with
  | recast hk => exact .recast (x := { x with cursor := none, fresh := false }) hk

theorem shut (hx : x.Alike g K y) :
    Alike g K { x with state := .closed } { y with state := .closed } := by
  cases hx with
  | recast hk => exact .recast (x := { x with state := .closed }) hk

end Alike

section Run

variable {σ τ : Type} [Connection σ] [Connection τ] {g : Bool → Bool}
  {K : Handle → Handle → Prop} {W : World σ → World τ → Prop} {w : World σ} {v : World τ}
  {x y : Execution} {k l : Handle}

/-- The handle is gone however its closing ends; an error of that is only logged. -/
theorem discard_alike (L : Likeness K W) (h : W w v) (hx : x.Alike g K y) :
    Agrees W (Alike g K) (x.discard w) (y.discard v) := by
  constructor
  · rw [discard_next, discard_next]
    exact hx.drop
  · have hheld := hx.held
    unfold discard
    generalize x.held = p, y.held = q at hheld
    cases hheld with
    | none => exact h
    | @some k l hk =>
      have hc := L.close h hk
      dsimp only
      rcases (w.close k).1 with e | _ <;> rcases (v.close l).1 with e' | _
      · exact L.note hc (.closeFailed k.text e) (.closeFailed l.text e')
      · exact L.note_left hc (.closeFailed k.text e)
      · exact L.note_right hc (.closeFailed l.text e')
      · exact hc

theorem prepare_alike (L : Likeness K W) (h : W w v) (hx : x.Alike g K y) (sql : String) :
    After.Agrees W (Alike g K) (Matches K) (x.prepare sql w) (y.prepare sql v) := by
  have hd := discard_alike L h hx
  obtain ⟨hanswer, hworld⟩ := L.prepare hd.world sql
  unfold prepare
  dsimp only
  generalize (x.discard w).2.prepare sql = p, (y.discard v).2.prepare sql = q at hanswer hworld ⊢
  obtain ⟨a, w'⟩ := p
  obtain ⟨c, v'⟩ := q
  cases hanswer with
  | error e => exact ⟨.error e, hd.answer, hworld⟩
  | ok hk => exact ⟨.ok hk, hd.answer.hold hk, hworld⟩

theorem acquire_alike (L : Likeness K W) (h : W w v) (hx : x.Alike g K y) (sql : String) :
    After.Agrees W (Alike g K) (Matches K) (x.acquire sql w) (y.acquire sql v) := by
  have hheld := hx.held
  have hp := prepare_alike L h hx sql
  unfold acquire
  generalize x.held = p, y.held = q at hheld
  cases hheld with
  | none => exact hp
  | @some k l hk =>
    dsimp only
    rw [L.text hk]
    split
    · exact ⟨.ok hk, hx, h⟩
    · exact hp

theorem bindFrom_alike (L : Likeness K W) (h : W w v) (hk : K k l) (vs : List Value) (n : Nat) :
    Agrees W Eq (bindFrom k n vs w) (bindFrom l n vs v) := by
  induction vs generalizing n w v with
  | nil => exact ⟨rfl, h⟩
  | cons x vs ih =>
    have hb := L.bind h hk n x
    rw [bindFrom, bindFrom]
    dsimp only
    rw [hb.same]
    rcases (w.bind k n x).1 with e | _
    · exact ⟨rfl, hb.world⟩
    · exact ih hb.world (n + 1)

theorem perform_alike (L : Likeness K W) (h : W w v) (hk : K k l) (r : Rendered) :
    Agrees W Eq (perform k r w) (perform l r v) := by
  have hb := bindFrom_alike L h hk r.binds 1
  unfold perform
  dsimp only
  rw [hb.same]
  rcases (bindFrom k 1 r.binds w).1 with e | _
  · exact ⟨rfl, hb.world⟩
  · exact L.execute hb.world hk

theorem attempt_alike (L : Likeness K W) (h : W w v) (hx : x.Alike g K y) (r : Rendered) :
    After.Agrees W (Alike g K) Eq (x.attempt r w) (y.attempt r v) := by
  obtain ⟨hresult, hnext, hworld⟩ := acquire_alike L h hx r.sql
  unfold attempt
  dsimp only
  generalize x.acquire r.sql w = a, y.acquire r.sql v = c at hresult hnext hworld ⊢
  obtain ⟨b, x', w'⟩ := a
  obtain ⟨d, y', v'⟩ := c
  cases hresult with
  | error e => exact ⟨rfl, hnext, hworld⟩
  | ok hk =>
    have hp := perform_alike L hworld hk r
    exact ⟨hp.answer, hnext, hp.world⟩

theorem giveUp_alike (L : Likeness K W) (h : W w v) (hx : x.Alike g K y) (e : DriverError)
    (r : Rendered) : After.Agrees W (Alike g K) Eq (x.giveUp e r w) (y.giveUp e r v) := by
  have hd := discard_alike L h hx
  exact ⟨rfl, hd.answer, hd.world⟩

theorem retry_alike (L : Likeness K W) (h : W w v) (hx : x.Alike g K y) (r : Rendered) :
    After.Agrees W (Alike g K) Eq (x.retry r w) (y.retry r v) := by
  have ha := attempt_alike L h hx r
  unfold retry
  dsimp only
  rw [ha.same]
  rcases (x.attempt r w).result with e | o
  · exact giveUp_alike L ha.world ha.next e r
  · exact ⟨rfl, ha.next, ha.world⟩

/-- What the drivers believe about being alive goes into the log and nowhere else. -/
theorem recover_alike (L : Likeness K W) (h : W w v) (hx : x.Alike g K y) (e : DriverError)
    (r : Rendered) : After.Agrees W (Alike g K) Eq (x.recover e r w) (y.recover e r v) := by
  have hl := L.note (L.isAlive h) (.connectionLost r.sql e w.isAlive.1)
    (.connectionLost r.sql e v.isAlive.1)
  have hd := discard_alike L hl hx
  have hc := L.reconnect hd.world
  unfold recover
  dsimp only
  rw [hc.same]
  split
  · exact retry_alike L hc.world hd.answer r
  · exact ⟨rfl, hd.answer, hc.world⟩

theorem runWithRetry_alike (L : Likeness K W) (h : W w v) (hx : x.Alike g K y) (r : Rendered) :
    After.Agrees W (Alike g K) Eq (x.runWithRetry r w) (y.runWithRetry r v) := by
  have ha := attempt_alike L
    (L.note h (.executing x.settings.debug r.sql) (.executing y.settings.debug r.sql)) hx r
  unfold runWithRetry
  dsimp only
  rw [ha.same]
  rcases (x.attempt r (w.note (.executing x.settings.debug r.sql))).result with e | o
  · dsimp only
    split
    · exact recover_alike L ha.world ha.next e r
    · exact giveUp_alike L ha.world ha.next e r
  · exact ⟨rfl, ha.next, ha.world⟩

theorem run_alike (L : Likeness K W) (h : W w v) (hx : x.Alike g K y) (r : Rendered) :
    After.Agrees W (Alike g K) Eq (x.run r w) (y.run r v) := by
  have ha := runWithRetry_alike L h (hx.begin r) r
  unfold run
  dsimp only
  rw [ha.same]
  rcases ((x.begin r).runWithRetry r w).result with e | o
  · exact ⟨rfl, ha.next.fail e, ha.world⟩
  · exact ⟨rfl, ha.next.succeed o, ha.world⟩

theorem close_alike (L : Likeness K W) (h : W w v) (hx : x.Alike g K y) :
    Agrees W (Alike g K) (x.close w) (y.close v) := by
  have hd := discard_alike L h hx.unread
  exact ⟨hd.answer.shut, hd.world⟩

theorem count_alike (L : Likeness K W) (h : W w v) (hx : x.Alike g K y) (r : Rendered) :
    Agrees W Eq (x.count r w) (y.count r v) := by
  have ha := run_alike L h hx.clone r
  unfold count
  dsimp only
  rw [ha.same]
  rcases (x.clone.run r w).result with e | _
  · exact ⟨rfl, ha.world⟩
  · have hnext := ha.next
    dsimp only
    generalize (x.clone.run r w).next = x', (y.clone.run r v).next = y' at hnext
    cases hnext with
    | recast hk =>
      have hheld := x'.fetch_held (.move .first)
      rw [fetch_recast]
      generalize x'.fetch (.move .first) = out at hheld ⊢
      rcases out with ⟨(e | row), z⟩
      · exact ⟨rfl, ha.world⟩
      · have hz : z.Alike g K (z.recast g _) := .recast (hheld ▸ hk)
        exact ⟨rfl, (close_alike L ha.world hz).world⟩

end Run

end Execution

end SqlClient
