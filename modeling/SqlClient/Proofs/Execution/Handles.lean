import SqlClient.Proofs.Execution.Trace
import SqlClient.Proofs.Execution.Work

/-! # The handles that calls are about

The calls of a run are about the handle that was held before it and about handles that it has itself
asked for. Of all these the one that is held afterwards is left open, and no other.
-/
namespace SqlClient

/-! ## Handles that are left open -/

def Exchange.leaves (opened : List Handle) : Exchange → List Handle
  | prepare h (.ok ()) => h :: opened
  | close h _ => opened.filter (· ≠ h)
  | _ => opened

def leftOpen (opened : List Handle) (calls : List Exchange) : List Handle :=
  calls.foldl Exchange.leaves opened

theorem leftOpen_append (opened : List Handle) (cs ds : List Exchange) :
    leftOpen opened (cs ++ ds) = leftOpen (leftOpen opened cs) ds :=
  List.foldl_append

theorem Exchange.leaves_of_outside {c : Exchange} (hc : c.handle? = none) (opened : List Handle) :
    c.leaves opened = opened := by
  cases c <;> first | rfl | cases hc

theorem leftOpen_of_idle {opened : List Handle} {calls : List Exchange}
    (hc : ∀ c ∈ calls, c.leaves opened = opened) : leftOpen opened calls = opened := by
  induction calls with
  | nil => rfl
  | cons c calls ih =>
    obtain ⟨hone, hrest⟩ := List.forall_mem_cons.mp hc
    unfold leftOpen at ih ⊢
    rw [List.foldl_cons, hone]
    exact ih hrest

namespace Execution

variable {texts : String → Prop} {r : Rendered} {n m k : Nat} {held mid kept : Option Handle}
  {calls cs ds : List Exchange} {answer : Except DriverError Outcome} {h : Handle}

theorem Discarded.leftOpen (hd : Discarded held calls) : leftOpen held.toList calls = [] := by
  cases hd with
  | nothing => rfl
  | closed h answer => simp [SqlClient.leftOpen, Exchange.leaves]

theorem chained_leftOpen (r : Rendered) :
    Chained r fun _ held kept calls _ => leftOpen held.toList calls = kept.toList where
  trans hc hd := by rw [leftOpen_append, hc, hd]
  alive _ _ _ := rfl
  reconnect _ _ _ := rfl
  discarded hd := hd.leftOpen
  refused _ _ := rfl
  prepared _ := rfl
  tried _ ht := by
    apply leftOpen_of_idle
    intro c hc
    rcases ht.mem c hc with ⟨p, v, a, rfl⟩ | rfl
    · rfl
    · rfl

/-! ## Whose handles they are -/

/-- A handle asked for after the first `n` handles and among the first `m`, for one of the texts. -/
def New (texts : String → Prop) (n m : Nat) (h : Handle) : Prop :=
  texts h.text ∧ n < h.number ∧ h.number ≤ m

theorem New.mono {n' m' : Nat} (hn : New texts n m h) (hlo : n' ≤ n) (hhi : m ≤ m') :
    New texts n' m' h := by
  obtain ⟨ht, hl, hh⟩ := hn
  exact ⟨ht, by omega, by omega⟩

/-- The handles that calls for some texts are about. Before them `n` handles have been asked for and
one may be held, after them `m` and another one. -/
structure Accounted (texts : String → Prop) (n : Nat) (held kept : Option Handle)
    (calls : List Exchange) (m : Nat) : Prop where
  le : n ≤ m
  about : ∀ c ∈ calls, ∀ h, c.handle? = some h → held = some h ∨ New texts n m h
  keeps : ∀ h, kept = some h → held = some h ∨ New texts n m h

theorem Accounted.trans (hc : Accounted texts n held mid cs m)
    (hd : Accounted texts m mid kept ds k) : Accounted texts n held kept (cs ++ ds) k := by
  have widen : ∀ {h}, mid = some h ∨ New texts m k h → held = some h ∨ New texts n k h := by
    rintro h (hh | hh)
    · exact (hc.keeps h hh).imp_right fun hn => hn.mono (Nat.le_refl n) hd.le
    · exact Or.inr (hh.mono hc.le (Nat.le_refl k))
  constructor
  · exact Nat.le_trans hc.le hd.le
  · intro c hmem h hh
    rcases List.mem_append.mp hmem with hmem | hmem
    · exact (hc.about c hmem h hh).imp_right fun hn => hn.mono (Nat.le_refl n) hd.le
    · exact widen (hd.about c hmem h hh)
  · intro h hh
    exact widen (hd.keeps h hh)

theorem accounted_of_held (hc : ∀ c ∈ calls, ∀ h, c.handle? = some h → held = some h) :
    Accounted texts n held held calls n := by
  constructor
  · exact Nat.le_refl n
  · intro c hmem h hh
    exact Or.inl (hc c hmem h hh)
  · intro h hh
    exact Or.inl hh

theorem accounted_of_outside (hc : ∀ c ∈ calls, c.handle? = none) :
    Accounted texts n held held calls n := by
  apply accounted_of_held
  intro c hmem h hh
  rw [hc c hmem] at hh
  cases hh

theorem Accounted.gaveUp (ha : Accounted texts n held kept calls m) :
    Accounted texts n held none calls m := by
  refine ⟨ha.le, ha.about, ?_⟩
  intro h hh
  cases hh

theorem Discarded.accounted (hd : Discarded held calls) : Accounted texts n held none calls n := by
  refine (accounted_of_held ?_).gaveUp
  cases hd with
  | nothing => simp
  | closed h answer =>
    intro c hc k hk
    cases List.mem_singleton.mp hc
    exact hk

theorem chained_accounted (r : Rendered) : Chained r (Accounted (· = r.sql)) := by
  have hasked : ∀ n answer, Accounted (· = r.sql) n none (some ⟨n + 1, r.sql⟩)
      [.prepare ⟨n + 1, r.sql⟩ answer] (n + 1) := by
    intro n answer
    have hnew : New (· = r.sql) n (n + 1) ⟨n + 1, r.sql⟩ :=
      ⟨rfl, Nat.lt_succ_self n, Nat.le_refl (n + 1)⟩
    constructor
    · exact Nat.le_succ n
    · intro c hc h hh
      rw [List.mem_singleton.mp hc] at hh
      cases hh
      exact Or.inr hnew
    · intro h hh
      cases hh
      exact Or.inr hnew
  constructor
  · exact Accounted.trans
  · intro n held b
    exact accounted_of_outside (by simp [Exchange.handle?])
  · intro n held b
    exact accounted_of_outside (by simp [Exchange.handle?])
  · exact Discarded.accounted
  · intro n e
    exact (hasked n (.error e)).gaveUp
  · intro n
    exact hasked n (.ok ())
  · intro n h cs answer _ ht
    apply accounted_of_held
    intro c hc k hk
    rcases ht.mem c hc with ⟨p, v, a, rfl⟩ | rfl
    · exact hk
    · exact hk

section Run

variable {first : Except DriverError Outcome} {back : Option Bool}
  {second : Option (Except DriverError Outcome)} {o : Outcome}

/-- The handle that is held after a run is the only one of those that the run has dealt with that is
left open. -/
theorem Ran.leftOpen (hran : Ran r n held first back second kept calls m) :
    leftOpen held.toList calls = kept.toList :=
  hran.chained (chained_leftOpen r)

/-- A run deals with the handle that was held before it and with new ones for its text. -/
theorem Ran.accounted (hran : Ran r n held first back second kept calls m) :
    Accounted (· = r.sql) n held kept calls m :=
  hran.chained (chained_accounted r)

theorem Ran.kept_of_error {e : DriverError} (hran : Ran r n held first back second kept calls m)
    (he : second.getD first = .error e) : kept = none := by
  cases hran with
  | answered => cases he
  | recovered => cases he
  | failed | refused | gaveUp => rfl

end Run

/-! ## Everything that is done on behalf of an execution -/

/-- Calls on behalf of an execution that run only what `runs` holds of. -/
structure Told (runs : Rendered → Prop) (n : Nat) (held kept : Option Handle)
    (calls : List Exchange) (m : Nat) : Prop where
  accounted : Accounted (fun text => ∃ r, runs r ∧ text = r.sql) n held kept calls m
  executes : Executes runs calls
  fits : ∀ h k v a, .bind h k v a ∈ calls →
    ∃ r, runs r ∧ h.text = r.sql ∧ 1 ≤ k ∧ k ≤ r.binds.length

variable {runs : Rendered → Prop}

theorem Told.trans (hc : Told runs n held mid cs m) (hd : Told runs m mid kept ds k) :
    Told runs n held kept (cs ++ ds) k := by
  constructor
  · exact hc.accounted.trans hd.accounted
  · exact hc.executes.append hd.executes
  · intro h p v a hmem
    rcases List.mem_append.mp hmem with hmem | hmem
    · exact hc.fits h p v a hmem
    · exact hd.fits h p v a hmem

theorem Told.mono {runs' : Rendered → Prop} (ht : Told runs n held kept calls m)
    (hr : ∀ r, runs r → runs' r) : Told runs' n held kept calls m := by
  have widen : ∀ {h}, held = some h ∨ New (fun text => ∃ r, runs r ∧ text = r.sql) n m h →
      held = some h ∨ New (fun text => ∃ r, runs' r ∧ text = r.sql) n m h := by
    rintro h (hh | ⟨⟨r, hruns, htext⟩, hn⟩)
    · exact Or.inl hh
    · exact Or.inr ⟨⟨r, hr r hruns, htext⟩, hn⟩
  constructor
  · constructor
    · exact ht.accounted.le
    · intro c hc h hh
      exact widen (ht.accounted.about c hc h hh)
    · intro h hh
      exact widen (ht.accounted.keeps h hh)
  · exact ht.executes.mono hr
  · intro h p v a hmem
    obtain ⟨r, hruns, hfits⟩ := ht.fits h p v a hmem
    exact ⟨r, hr r hruns, hfits⟩

theorem told_of_outside (hc : ∀ c ∈ calls, c.handle? = none) : Told runs n held held calls n := by
  constructor
  · exact accounted_of_outside hc
  · apply Executes.of_forall
    rintro c hmem k a rfl
    cases hc _ hmem
  · intro h p v a hmem
    cases hc _ hmem

theorem Discarded.told (hd : Discarded held calls) : Told runs n held none calls n := by
  constructor
  · exact hd.accounted
  · exact hd.executes
  · intro h p v a hmem
    exact absurd rfl (hd.binds_nothing _ hmem h p v a)

theorem Ran.told {first : Except DriverError Outcome} {back : Option Bool}
    {second : Option (Except DriverError Outcome)}
    (hran : Ran r n held first back second kept calls m) : Told (· = r) n held kept calls m := by
  constructor
  · have hone : (fun text => ∃ x, x = r ∧ text = x.sql) = (· = r.sql) := by simp
    rw [hone]
    exact hran.accounted
  · exact hran.executes
  · intro h p v a hmem
    exact ⟨r, rfl, hran.fits _ hmem h p v a rfl⟩

theorem Told.beside (ht : Told runs n none kept calls m) (held : Option Handle) :
    Told runs n held held calls m := by
  constructor
  · constructor
    · exact ht.accounted.le
    · intro c hc h hh
      rcases ht.accounted.about c hc h hh with hnone | hnew
      · cases hnone
      · exact Or.inr hnew
    · intro h hh
      exact Or.inl hh
  · exact ht.executes
  · exact ht.fits

variable {σ : Type} [Connection σ]

theorem run_told (x : Execution) (r : Rendered) (w : World σ) :
    ∃ calls, w.Said calls (x.run r w).world ∧
      Told (· = r) w.prepared x.held (x.run r w).next.held calls (x.run r w).world.prepared := by
  obtain ⟨first, back, second, kept, calls, hran, hs, hend⟩ := run_cases x r w
  have hheld : (x.run r w).next.held = kept := by
    rcases hend with ⟨o, -, -, hn⟩ | ⟨e, -, -, hn⟩
    · rw [hn, succeed_held]
    · rw [hn]
      rfl
  rw [hheld]
  exact ⟨calls, hs, hran.told⟩

theorem close_told (x : Execution) (w : World σ) :
    ∃ calls, w.Said calls (x.close w).2 ∧
      Told runs w.prepared x.held (x.close w).1.held calls (x.close w).2.prepared := by
  obtain ⟨calls, hd, hs, hp⟩ := discard_world { x with cursor := none, fresh := false } w
  have hprepared : (x.close w).2.prepared = w.prepared := hp
  rw [close_held, hprepared]
  exact ⟨calls, hs, hd.told⟩

theorem errands_told {errand : Rendered → Prop} {u v : World σ} (h : World.Errands errand u v) :
    ∃ calls, u.Said calls v ∧ Told errand u.prepared none none calls v.prepared := by
  induction h with
  | idle => exact ⟨[], .refl _, told_of_outside (by simp)⟩
  | handsOff _ hoff ih =>
    obtain ⟨cs, hs, hc⟩ := ih
    obtain ⟨ds, ht, hnone, hp⟩ := hoff
    rw [hp]
    exact ⟨cs ++ ds, hs.trans ht, hc.trans (told_of_outside hnone)⟩
  | @ran v settings r _ hr ih =>
    obtain ⟨cs, hs, hc⟩ := ih
    obtain ⟨ds, ht, hd⟩ := run_told { settings } r v
    have hd' : Told errand v.prepared none none ds _ := (hd.mono fun x hx => hx ▸ hr).beside none
    exact ⟨cs ++ ds, hs.trans ht, hc.trans hd'⟩
  | @closed v settings r x _ hr hx ih =>
    obtain ⟨cs, hs, hc⟩ := ih
    obtain ⟨ds, ht, hd⟩ := run_told { settings } r v
    obtain ⟨es, hu, he⟩ := close_told x (run { settings } r v).world
    rw [hx] at he
    have hd' : Told errand v.prepared none none (ds ++ es) _ :=
      ((hd.mono fun x hx => hx ▸ hr).trans he).beside none
    exact ⟨cs ++ (ds ++ es), hs.trans (ht.trans hu), hc.trans hd'⟩

/-- What an execution does, on its own account and by errands, in terms of the calls. -/
theorem Works.told {own errand : Rendered → Prop} {x y : Execution} {u v : World σ}
    (h : Works own errand x u y v) :
    ∃ calls, u.Said calls v ∧
      Told (fun r => own r ∨ errand r) u.prepared x.held y.held calls v.prepared := by
  induction h with
  | rest => exact ⟨[], .refl _, told_of_outside (by simp)⟩
  | quiet z _ hz ih =>
    rw [hz]
    exact ih
  | beside _ he ih =>
    obtain ⟨cs, hs, hc⟩ := ih
    obtain ⟨ds, ht, hd⟩ := errands_told he
    exact ⟨cs ++ ds, hs.trans ht, hc.trans ((hd.mono fun _ => Or.inr).beside _)⟩
  | @ran y u v r _ hr ih =>
    obtain ⟨cs, hs, hc⟩ := ih
    obtain ⟨ds, ht, hd⟩ := run_told y r v
    exact ⟨cs ++ ds, hs.trans ht, hc.trans (hd.mono fun x hx => Or.inl (hx ▸ hr))⟩
  | @closed y u v _ ih =>
    obtain ⟨cs, hs, hc⟩ := ih
    obtain ⟨ds, ht, hd⟩ := close_told y v
    exact ⟨cs ++ ds, hs.trans ht, hc.trans hd⟩

theorem Works.held_text {own errand : Rendered → Prop} {x y : Execution} {u v : World σ}
    (h : Works own errand x u y v) :
    ∀ k, y.held = some k → x.held = some k ∨ ∃ r, own r ∧ k.text = r.sql := by
  induction h with
  | rest => exact fun k hk => Or.inl hk
  | quiet z _ hz ih => exact fun k hk => ih k (hz ▸ hk)
  | beside _ _ ih => exact ih
  | @ran y u v r _ hr ih =>
    intro k hk
    obtain ⟨_, -, ht⟩ := run_told y r v
    rcases ht.accounted.keeps k hk with hh | ⟨⟨_, rfl, htext⟩, -⟩
    · exact ih k hh
    · exact Or.inr ⟨_, hr, htext⟩
  | closed =>
    intro k hk
    rw [close_held] at hk
    cases hk

end Execution

end SqlClient
