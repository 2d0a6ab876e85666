import SqlClient.Proofs.Placeholder
import SqlClient.Proofs.Session.Turns

/-! # A handle that is used again

Built statements whose texts agree have equally many values. So what a handle has bound when it is
executed is the values of that very run: an earlier run of the same handle leaves nothing behind.
-/
namespace SqlClient

/-! ## Equal texts -/

theorem Rendered.IsBuilt.holds {r : Rendered} (hr : r.IsBuilt) :
    Placeholder.Holds r.sql r.binds.length := by
  obtain ⟨c, hc, rfl⟩ := hr
  cases c with
  | raw q => cases hc
  | select q => exact (Placeholder.aligned_render rfl).holds
  | insert q => exact (Placeholder.aligned_render rfl).holds
  | update q => exact (Placeholder.aligned_render rfl).holds
  | delete q => exact (Placeholder.aligned_render rfl).holds

theorem Rendered.IsBuilt.length_eq {r x : Rendered} (hr : r.IsBuilt) (hx : x.IsBuilt)
    (h : r.sql = x.sql) : r.binds.length = x.binds.length := by
  have hscan : Placeholder.scan false x.sql.toList = (r.binds.length, false) := h ▸ hr.holds
  exact (Prod.mk.inj (hscan.symm.trans hx.holds)).1

/-! ## Pools -/

namespace Pool

variable {σ : Type} [Connection σ] {p q : Pool σ} {k : Option Nat} {acts : Nat → Prop}

/-- The runs for which calls have been made: those of a built member are of built commands, and what
has been bound for a run fits it. -/
structure Labelled (p : Pool σ) : Prop where
  there : ∀ d ∈ p.deeds, ∀ i, d.doer = some i → i < p.members.length
  built : ∀ d ∈ p.deeds, ∀ i m r, d.doer = some i → p.members[i]? = some m → m.built = true →
    d.run = some r → r.IsBuilt
  fits : ∀ d ∈ p.deeds, ∀ h n v answer, d.call = .bind h n v answer →
    ∃ r, d.run = some r ∧ d.call.Fits r

omit [Connection σ] in
theorem Labelled.regroup (hp : p.Labelled) {members : List Member}
    (hlen : p.members.length ≤ members.length)
    (hbuilt : ∀ i m, i < p.members.length → members[i]? = some m →
      ∃ m', p.members[i]? = some m' ∧ m'.built = m.built) :
    Labelled { p with members } := by
  constructor
  · intro d hd i hi
    exact Nat.lt_of_lt_of_le (hp.there d hd i hi) hlen
  · intro d hd i m r hi hm hb hr
    obtain ⟨m', hm', hsame⟩ := hbuilt i m (hp.there d hd i hi) hm
    exact hp.built d hd i m' r hi hm' (hsame.trans hb) hr
  · exact hp.fits

omit [Connection σ] in
theorem Labelled.put (hp : p.Labelled) {i : Nat} {m : Member} (hm : p.members[i]? = some m)
    (x : Execution) : Labelled (p.put i ⟨m.built, x⟩) := by
  refine hp.regroup (Nat.le_of_eq List.length_set.symm) ?_
  intro j m' hj hm'
  by_cases hji : i = j
  · rw [hji] at hm hm'
    rw [List.getElem?_set_self hj] at hm'
    cases hm'
    exact ⟨m, hm, rfl⟩
  · rw [List.getElem?_set_ne hji] at hm'
    exact ⟨m', hm', rfl⟩

omit [Connection σ] in
theorem Labelled.say (hp : p.Labelled) {doer : Option Nat} {run : Option Rendered}
    {calls : List Exchange} (v : World σ) (hdoer : ∀ i, doer = some i → i < p.members.length)
    (hbuilt : ∀ i m r, doer = some i → p.members[i]? = some m → m.built = true → run = some r →
      r.IsBuilt)
    (hfits : ∀ c ∈ calls, ∀ h n v answer, c = .bind h n v answer → ∃ r, run = some r ∧ c.Fits r) :
    Labelled (p.say doer run calls v) := by
  constructor
  · unfold Pool.say
    rw [List.forall_mem_append, List.forall_mem_map]
    exact ⟨hp.there, fun c _ => hdoer⟩
  · unfold Pool.say
    rw [List.forall_mem_append, List.forall_mem_map]
    exact ⟨hp.built, fun c _ => hbuilt⟩
  · unfold Pool.say
    rw [List.forall_mem_append, List.forall_mem_map]
    exact ⟨hp.fits, hfits⟩

theorem Step.labelled (hp : p.Labelled) (hs : p.Step k q) : q.Labelled := by
  cases hs with
  | joins m hm =>
    refine hp.regroup ?_ ?_
    · rw [List.length_append]
      exact Nat.le_add_right _ _
    · intro i m' hi hm'
      rw [List.getElem?_append_left hi] at hm'
      exact ⟨m', hm', rfl⟩
  | outside hv hcalls hn =>
    refine hp.say _ (by simp) (by simp) ?_
    intro c hc h n v answer hh
    have hnone := hcalls c hc
    rw [hh] at hnone
    cases hnone
  | rests x hm hx => exact hp.put hm x
  | @runs i m calls r hm hr hv =>
    obtain ⟨_, _, _, _, said, hran, hsaid, -⟩ := Execution.run_cases m.execution r p.world
    cases hv.unique hsaid
    have hput := hp.put hm (m.execution.run r p.world).next
    have hplace : i < (p.members.set i ⟨m.built, (m.execution.run r p.world).next⟩).length := by
      rw [List.length_set]
      exact place_lt hm
    refine hput.say _ ?_ ?_ ?_
    · rintro j ⟨⟩
      exact hplace
    · rintro j m' r' ⟨⟩ hm' hb ⟨⟩
      have hself : (p.put i ⟨m.built, (m.execution.run r p.world).next⟩).members[i]? = _ :=
        List.getElem?_set_self (place_lt hm)
      cases hself.symm.trans hm'
      exact hr hb
    · intro c hc h n v answer _
      exact ⟨r, rfl, hran.fits c hc⟩
  | @closes i m calls hm hv =>
    obtain ⟨said, hd, hsaid, -⟩ :=
      Execution.discard_world { m.execution with cursor := none, fresh := false } p.world
    cases hv.unique hsaid
    have hput := hp.put hm (m.execution.close p.world).1
    refine hput.say _ ?_ (by simp) ?_
    · rintro j ⟨⟩
      exact Nat.lt_of_lt_of_eq (place_lt hm) List.length_set.symm
    · intro c hc h n v answer hh
      exact absurd hh (hd.binds_nothing c hc h n v answer)

theorem Leads.labelled (hp : p.Labelled) (hl : Leads acts p q) : q.Labelled := by
  induction hl with
  | refl => exact hp
  | tail _ hs _ ih => exact hs.labelled ih

end Pool

/-! ## What a handle has bound -/

def lastBound (h : Handle) (n : Nat) (ds : List Deed) : Option Value :=
  ((ds.map Deed.call).filterMap (Exchange.boundAt? h n)).getLast?

theorem lastBound_append (h : Handle) (n : Nat) (ds es : List Deed) :
    lastBound h n (ds ++ es) = (lastBound h n es).or (lastBound h n ds) := by
  unfold lastBound
  rw [List.map_append]
  exact latest_append h n _ _

theorem lastBound_eq_none {h : Handle} {n : Nat} {ds : List Deed}
    (hds : ∀ d ∈ ds, d.call.boundAt? h n = none) : lastBound h n ds = none :=
  latest_eq_none (List.forall_mem_map.mpr hds)

theorem lastBound_bound (h : Handle) (n start : Nat) (vs : List Value) (doer : Option Nat)
    (run : Option Rendered) :
    lastBound h n ((h.bound start vs).map (Deed.mk doer run)) =
      if n < start then none else vs[n - start]? := by
  have hcalls : ((h.bound start vs).map (Deed.mk doer run)).map Deed.call = h.bound start vs := by
    rw [List.map_map]
    exact List.map_id _
  unfold lastBound
  rw [hcalls]
  exact latest_bound h n start vs

/-- A value that a built member has bound was bound for a run of the same text, so its position is
one that any run of this text has a value for. -/
theorem Pool.Labelled.lastBound_outside {σ : Type} {p : Pool σ} (hp : p.Labelled) {i : Nat}
    {m : Member} (hm : p.members[i]? = some m) (hb : m.built = true) {r : Rendered}
    (hr : r.IsBuilt) {h : Handle} (htext : h.text = r.sql) {ds : List Deed}
    (hds : ∀ d ∈ ds, d ∈ p.deeds) (honly : OnlyBy i ds h) {n : Nat}
    (hn : n < 1 ∨ r.binds.length < n) : lastBound h n ds = none := by
  refine lastBound_eq_none fun d hd => ?_
  unfold Exchange.boundAt?
  split
  · next k l v u hcall =>
    split
    · next hkl =>
      obtain ⟨rfl, rfl⟩ := hkl
      obtain ⟨x, hx, hfits⟩ := hp.fits d (hds d hd) k l v _ hcall
      obtain ⟨hxtext, hlo, hhi⟩ := hfits k l v _ hcall
      have howner : d.doer = some i := honly d hd (by rw [hcall]; rfl)
      have hxbuilt := hp.built d (hds d hd) i m x howner hm hb hx
      have hlen := hr.length_eq hxbuilt (htext.symm.trans hxtext)
      omega
    · rfl
  · rfl

namespace Session

variable {σ : Type} [Connection σ] {s : Session σ} {p : Pool σ} {place : String → Option Nat}

theorem Traced.labelled (h : Traced s p place) : p.Labelled := by
  induction h with
  | start settings driver =>
    constructor
    · simp
    · simp
    · simp
  | driver driver _ ih => exact ⟨ih.there, ih.built, ih.fits⟩
  | step op _ hl _ _ ih => exact hl.labelled ih

/-- Whenever a built statement executes a handle, it has itself prepared that handle for the very
text of the run, and what the handle has bound is the values of the run, from the first position on,
and nothing else. It does not matter what other runs of the handle have bound before. -/
theorem reused_handle_holds_its_run (ht : Traced s p place) {i : Nat} {m : Member}
    (hm : p.members[i]? = some m) (hb : m.built = true) {before after : List Deed} {d : Deed}
    (hd : p.deeds = before ++ d :: after) (hi : d.doer = some i) {h : Handle}
    {answer : Except DriverError Outcome} (hc : d.call = .execute h answer) :
    ∃ r, d.run = some r ∧ h.text = r.sql ∧ Opened before h ∧ OnlyBy i before h ∧
      lastBound h 0 before = none ∧ ∀ n, lastBound h (n + 1) before = r.binds[n]? := by
  have hproper := ht.sound.custody.proper before d after hd
  have hlabels := ht.labelled
  have hmem : ∀ e ∈ before, e ∈ p.deeds := by
    intro e he
    rw [hd]
    exact List.mem_append_left _ he
  have hdmem : d ∈ p.deeds := by
    rw [hd]
    exact List.mem_append_right _ List.mem_cons_self
  obtain ⟨r, earlier, hrun, htext, hbefore⟩ := hproper.ready h answer hc
  obtain ⟨hopened, j, hj, honly⟩ := hproper.owned h (by rw [hc]; rfl)
  cases hi.symm.trans hj
  have hbuilt : r.IsBuilt := hlabels.built d hdmem i m r hi hm hb hrun
  have hearlier : ∀ n, n < 1 ∨ r.binds.length < n → lastBound h n earlier = none := by
    have hin : ∀ e ∈ earlier, e ∈ before := by
      intro e he
      rw [hbefore]
      exact List.mem_append_left _ he
    intro n
    exact hlabels.lastBound_outside hm hb hbuilt htext (fun e he => hmem e (hin e he))
      fun e he => honly e (hin e he)
  refine ⟨r, hrun, htext, hopened, honly, ?_, fun n => ?_⟩
  · rw [hbefore, lastBound_append, lastBound_bound, hearlier 0 (Or.inl Nat.one_pos)]
    rfl
  · rw [hbefore, lastBound_append, lastBound_bound, if_neg (by omega), Nat.add_sub_cancel]
    by_cases hn : n < r.binds.length
    · rw [List.getElem?_eq_getElem hn]
      rfl
    · rw [hearlier (n + 1) (Or.inr (by omega)), Option.or_none]

/-- An update that has run with one value runs again with another on the same handle, which then has
the second value bound and nothing besides. -/
theorem updated_twice_holds_second_value :
    let h : Handle := ⟨1, "UPDATE `t` SET `a` = ?"⟩
    ∃ (s : Session Scripted) (p : Pool Scripted) (place : String → Option Nat) (i : Nat)
      (m : Member) (before : List Deed) (d : Deed) (answer : Except DriverError Outcome)
      (r : Rendered),
      Traced s p place ∧ p.members[i]? = some m ∧ m.built = true ∧ p.deeds = before ++ [d] ∧
        d.doer = some i ∧ d.call = .execute h answer ∧
        before.map Deed.call =
          [.prepare h (.ok ()), .bind h 1 (.int 5) (.ok ()), .execute h answer,
            .bind h 1 (.int 7) (.ok ())] ∧
        d.run = some r ∧ h.text = r.sql ∧ r.binds[0]? = some (.int 7) ∧
        ∀ n, lastBound h (n + 1) before = r.binds[n]? := by
  intro h
  have hs := Reached.step (.use "a" (.statement .execute)) <|
    Reached.step (.use "a" (.statement (.change (.value ⟨"a"⟩ (.int 7))))) <|
    Reached.step (.use "a" (.statement .execute)) <|
    Reached.step (.use "a" (.statement (.change (.value ⟨"a"⟩ (.int 5))))) <|
    Reached.step (.make "a" (.update ⟨"t"⟩)) <| Reached.start {} ({} : Scripted)
  obtain ⟨p, place, ht⟩ := hs.traced
  have htold := congrArg List.reverse ht.sound.told
  rw [List.reverse_reverse, ht.placed.world] at htold
  have hcalls : p.deeds.map Deed.call =
      [.prepare h (.ok ()), .bind h 1 (.int 5) (.ok ()), .execute h (.ok (.affected 0)),
        .bind h 1 (.int 7) (.ok ())] ++ [.execute h (.ok (.affected 0))] := by
    rw [← htold]
    rfl
  obtain ⟨before, last, hdeeds, hbefore, hlast⟩ := List.map_eq_append_iff.mp hcalls
  obtain ⟨d, rfl, hd⟩ := List.map_eq_singleton_iff.mp hlast
  obtain ⟨i, -, hm⟩ := ht.placed.member "a" _ rfl
  have hheld : p.held i = some h := (Pool.held_of_member hm).trans rfl
  have hdoer : d.doer = some i := by
    refine ((ht.sound.custody.kept h).owner i hheld).2.1 d ?_ ?_
    · rw [hdeeds]
      exact List.mem_append_right _ (List.mem_singleton.mpr rfl)
    · rw [hd]
      rfl
  obtain ⟨r, hrun, htext, -, -, -, hbound⟩ := reused_handle_holds_its_run ht hm rfl hdeeds hdoer hd
  have hvalue : lastBound h 1 before = some (.int 7) := by
    unfold lastBound
    rw [hbefore]
    rfl
  exact ⟨_, p, place, i, _, before, d, _, r, ht, hm, rfl, hdeeds, hdoer, hd, hbefore, hrun, htext,
    (hbound 0).symm.trans hvalue, hbound⟩

end Session

end SqlClient
