import SqlClient.Execution

/-! # The calls of one attempt

An attempt is described by the handle held before it, the handle kept after it, its calls in order
and the answer of the last one. Handles are told apart by their number, so the count of handles
asked for is part of the description.
-/
namespace SqlClient

variable {σ : Type}

/-- The calls that lead from one world to another, in order. -/
def World.Said (w : World σ) (calls : List Exchange) (v : World σ) : Prop :=
  v.history = calls.reverse ++ w.history

theorem World.Said.refl (w : World σ) : w.Said [] w := by
  simp [World.Said]

theorem World.Said.trans {u v w : World σ} {cs ds : List Exchange} (h : u.Said cs v)
    (k : v.Said ds w) : u.Said (cs ++ ds) w := by
  unfold World.Said at *
  rw [k, h, List.reverse_append, List.append_assoc]

theorem World.Said.unique {v w : World σ} {cs ds : List Exchange} (h : v.Said cs w)
    (k : v.Said ds w) : cs = ds := by
  unfold World.Said at h k
  rw [h] at k
  exact List.reverse_inj.mp (List.append_cancel_right k)

theorem World.Said.note {v w : World σ} {cs : List Exchange} (h : v.Said cs w) (e : Event) :
    v.Said cs (w.note e) := h

theorem World.Said.of_note {v w : World σ} {cs : List Exchange} {e : Event}
    (h : (v.note e).Said cs w) : v.Said cs w := h

namespace Execution

/-- The call that gives a handle up, if there is one. Its answer does not matter. -/
inductive Discarded : Option Handle → List Exchange → Prop where
  | nothing : Discarded none []
  | closed (h : Handle) (answer : Except DriverError Unit) :
      Discarded (some h) [.close h answer]

/-- Values bound to consecutive positions, up to the first that is refused. -/
inductive Bound (h : Handle) :
    Nat → List Value → List Exchange → Except DriverError Unit → Prop where
  | all (n) : Bound h n [] [] (.ok ())
  | refused (n v vs e) : Bound h n (v :: vs) [.bind h n v (.error e)] (.error e)
  | next {n v vs calls answer} : Bound h (n + 1) vs calls answer →
      Bound h n (v :: vs) (.bind h n v (.ok ()) :: calls) answer

/-- A handle executed once all values are bound to it. -/
inductive Tried (h : Handle) (r : Rendered) :
    List Exchange → Except DriverError Outcome → Prop where
  | refused {calls e} : Bound h 1 r.binds calls (.error e) → Tried h r calls (.error e)
  | executed {calls} (answer) : Bound h 1 r.binds calls (.ok ()) →
      Tried h r (calls ++ [.execute h answer]) answer

def Reusable (held : Option Handle) (sql : String) : Prop := ∃ h, held = some h ∧ h.text = sql

/-- An attempt that begins after `n` handles have been asked for and ends after `m`. -/
inductive Attempted (r : Rendered) (n : Nat) (held : Option Handle) :
    Option Handle → List Exchange → Except DriverError Outcome → Nat → Prop where
  | reused {h calls answer} : held = some h → h.text = r.sql → Tried h r calls answer →
      Attempted r n held (some h) calls answer n
  | unprepared {closing e} : ¬ Reusable held r.sql → Discarded held closing →
      Attempted r n held none (closing ++ [.prepare ⟨n + 1, r.sql⟩ (.error e)]) (.error e) (n + 1)
  | prepared {closing calls answer} : ¬ Reusable held r.sql → Discarded held closing →
      Tried ⟨n + 1, r.sql⟩ r calls answer →
      Attempted r n held (some ⟨n + 1, r.sql⟩)
        (closing ++ .prepare ⟨n + 1, r.sql⟩ (.ok ()) :: calls) answer (n + 1)

section Calls

variable {h : Handle} {n : Nat} {vs : List Value} {r : Rendered} {calls : List Exchange}

theorem Bound.mem {bound : Except DriverError Unit} (hb : Bound h n vs calls bound) :
    ∀ c ∈ calls, ∃ k v a, c = .bind h k v a ∧ n ≤ k ∧ k < n + vs.length := by
  induction hb with
  | all =>
    intro c hc
    cases hc
  | refused n v vs e =>
    intro c hc
    cases List.mem_singleton.mp hc
    exact ⟨n, v, _, rfl, Nat.le_refl n, by simp⟩
  | @next n v vs calls answer _ ih =>
    intro c hc
    rcases List.mem_cons.mp hc with rfl | hc
    · exact ⟨n, v, _, rfl, Nat.le_refl n, by simp⟩
    · obtain ⟨k, u, a, rfl, hlo, hhi⟩ := ih c hc
      refine ⟨k, u, a, rfl, by omega, ?_⟩
      rw [List.length_cons]
      omega

theorem Tried.mem {answer : Except DriverError Outcome} (ht : Tried h r calls answer) :
    ∀ c ∈ calls, (∃ p v a, c = .bind h p v a) ∨ c = .execute h answer := by
  have hbound : ∀ {cs bound}, Bound h 1 r.binds cs bound →
      ∀ c ∈ cs, ∃ p v a, c = .bind h p v a := by
    intro cs bound hb c hc
    obtain ⟨p, v, a, rfl, -⟩ := hb.mem c hc
    exact ⟨p, v, a, rfl⟩
  cases ht with
  | refused hb => exact fun c hc => Or.inl (hbound hb c hc)
  | executed answer hb =>
    intro c hc
    rcases List.mem_append.mp hc with hc | hc
    · exact Or.inl (hbound hb c hc)
    · exact Or.inr (List.mem_singleton.mp hc)

end Calls

section Spec

variable [Connection σ]

theorem discard_next (x : Execution) (w : World σ) :
    (x.discard w).1 = { x with held := none } := by
  unfold discard
  split
  · next h => cases x; simp_all
  · dsimp only
    split <;> rfl

theorem discard_world (x : Execution) (w : World σ) :
    ∃ calls, Discarded x.held calls ∧ w.Said calls (x.discard w).2 ∧
      (x.discard w).2.prepared = w.prepared := by
  unfold discard
  split
  · next h =>
    rw [h]
    exact ⟨[], .nothing, .refl w, rfl⟩
  · next h hh =>
    rw [hh]
    dsimp only
    refine ⟨[.close h (w.close h).1], .closed h _, ?_⟩
    split <;> exact ⟨rfl, rfl⟩

omit [Connection σ] in
theorem succeed_held (x : Execution) (o : Outcome) : (x.succeed o).held = x.held := by
  cases o <;> rfl

theorem close_held (x : Execution) (w : World σ) : (x.close w).1.held = none := by
  unfold close
  dsimp only
  rw [discard_next]

theorem close_world {x : Execution} {h : Handle} (hx : x.held = some h) (w : World σ) :
    ∃ answer, w.Said [.close h answer] (x.close w).2 ∧
      (x.close w).2.driver = (Connection.close h w.driver).2 := by
  refine ⟨(w.close h).1, ?_⟩
  unfold close discard
  dsimp only
  rw [hx]
  dsimp only
  split <;> exact ⟨rfl, rfl⟩

theorem bindFrom_world (h : Handle) (vs : List Value) (n : Nat) (w : World σ) :
    ∃ calls, Bound h n vs calls (bindFrom h n vs w).1 ∧ w.Said calls (bindFrom h n vs w).2 ∧
      (bindFrom h n vs w).2.prepared = w.prepared := by
  induction vs generalizing n w with
  | nil => exact ⟨[], .all n, .refl w, rfl⟩
  | cons v vs ih =>
    have hw : w.Said [.bind h n v (w.bind h n v).1] (w.bind h n v).2 := rfl
    unfold bindFrom
    dsimp only
    split
    · next ha =>
      obtain ⟨calls, hb, hs, hp⟩ := ih (n + 1) (w.bind h n v).2
      rw [ha] at hw
      exact ⟨_, .next hb, hw.trans hs, hp⟩
    · next e ha =>
      rw [ha] at hw
      exact ⟨_, .refused n v vs e, hw, rfl⟩

theorem prepare_cases (x : Execution) (sql : String) (w : World σ) :
    ∃ closing v, Discarded x.held closing ∧ v.prepared = w.prepared + 1 ∧
      ((∃ e, w.Said (closing ++ [.prepare ⟨w.prepared + 1, sql⟩ (.error e)]) v ∧
          x.prepare sql w = ⟨.error e, { x with held := none }, v⟩) ∨
        w.Said (closing ++ [.prepare ⟨w.prepared + 1, sql⟩ (.ok ())]) v ∧
          x.prepare sql w =
            ⟨.ok ⟨w.prepared + 1, sql⟩, { x with held := some ⟨w.prepared + 1, sql⟩ }, v⟩) := by
  obtain ⟨closing, hd, hs, hp⟩ := discard_world x w
  unfold prepare
  dsimp only
  rw [discard_next]
  generalize (x.discard w).2 = u at hs hp ⊢
  have hu : u.Said [.prepare ⟨w.prepared + 1, sql⟩ (Connection.prepare ⟨w.prepared + 1, sql⟩
      u.driver).1] (u.prepare sql).2 := by rw [← hp]; rfl
  have hr : (u.prepare sql).1 = (Connection.prepare ⟨w.prepared + 1, sql⟩ u.driver).1.map
      fun _ => ⟨w.prepared + 1, sql⟩ := by rw [← hp]; rfl
  refine ⟨closing, (u.prepare sql).2, hd, by rw [← hp]; rfl, ?_⟩
  cases ha : (Connection.prepare ⟨w.prepared + 1, sql⟩ u.driver).1 with
  | error e =>
    rw [ha] at hu hr
    exact Or.inl ⟨e, hs.trans hu, by rw [hr]; rfl⟩
  | ok a =>
    rw [ha] at hu hr
    exact Or.inr ⟨hs.trans hu, by rw [hr]; rfl⟩

theorem acquire_of_reusable {x : Execution} {h : Handle} {sql : String} (hh : x.held = some h)
    (ht : h.text = sql) (w : World σ) : x.acquire sql w = ⟨.ok h, x, w⟩ := by
  simp [acquire, hh, ht]

theorem acquire_of_not_reusable {x : Execution} {sql : String} (hr : ¬ Reusable x.held sql)
    (w : World σ) : x.acquire sql w = x.prepare sql w := by
  unfold acquire
  split
  · next h hh => exact if_neg fun ht => hr ⟨h, hh, ht⟩
  · rfl

theorem perform_world (h : Handle) (r : Rendered) (w : World σ) :
    ∃ calls, Tried h r calls (perform h r w).1 ∧ w.Said calls (perform h r w).2 ∧
      (perform h r w).2.prepared = w.prepared := by
  obtain ⟨calls, hb, hs, hp⟩ := bindFrom_world h r.binds 1 w
  unfold perform
  dsimp only
  generalize bindFrom h 1 r.binds w = b at hb hs hp ⊢
  rcases b with ⟨e | _, v⟩
  · exact ⟨calls, .refused hb, hs, hp⟩
  · have hv : v.Said [.execute h (v.execute h).1] (v.execute h).2 := rfl
    exact ⟨_, .executed _ hb, hs.trans hv, hp⟩

/-- An attempt changes nothing of the execution but the handle that is held. -/
theorem attempt_cases (x : Execution) (r : Rendered) (w : World σ) :
    ∃ kept calls, Attempted r w.prepared x.held kept calls (x.attempt r w).result
        (x.attempt r w).world.prepared ∧
      w.Said calls (x.attempt r w).world ∧ (x.attempt r w).next = { x with held := kept } := by
  unfold attempt
  by_cases hr : Reusable x.held r.sql
  · obtain ⟨h, hh, ht⟩ := hr
    rw [acquire_of_reusable hh ht]
    obtain ⟨calls, hd, hs, hp⟩ := perform_world h r w
    dsimp only
    rw [hp]
    exact ⟨some h, calls, .reused hh ht hd, hs, by rw [← hh]⟩
  · rw [acquire_of_not_reusable hr]
    obtain ⟨closing, u, hd, hp, ⟨e, hs, hx⟩ | ⟨hs, hx⟩⟩ := prepare_cases x r.sql w
    · rw [hx]
      dsimp only
      rw [hp]
      exact ⟨none, _, .unprepared hr hd, hs, rfl⟩
    · rw [hx]
      obtain ⟨calls, ht, hu, hq⟩ := perform_world ⟨w.prepared + 1, r.sql⟩ r u
      dsimp only
      rw [hq, hp]
      refine ⟨_, _, .prepared hr hd ht, ?_, rfl⟩
      simpa using hs.trans hu

end Spec

end Execution

end SqlClient
