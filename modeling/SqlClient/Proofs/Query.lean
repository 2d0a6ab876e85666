import SqlClient.Proofs.Execution.Handles
import SqlClient.Proofs.Work
import SqlClient.Scripted

/-! # Values left over on the handle of a query

The text of a query does not tell how many values it has, and the handle is used again as long as
the text is the same. So a run that binds fewer values than an earlier one leaves those behind that
it does not bind anew. As long as no values are taken away from the query, there are none.
-/
namespace SqlClient

variable {σ : Type}

namespace World

def Numbered (w : World σ) : Prop :=
  ∀ c ∈ w.history, ∀ h, c.handle? = some h → h.number ≤ w.prepared

/-- What others may do on a connection while a handle is held: whatever is not about that handle. -/
structure Elsewhere (held : Option Handle) (w v : World σ) : Prop where
  said : ∃ calls, w.Said calls v ∧ ∀ c ∈ calls, ∀ h, c.handle? = some h → held ≠ some h
  prepared : w.prepared ≤ v.prepared
  numbered : v.Numbered

variable {v w : World σ} {h : Handle} {n : Nat} {held kept : Option Handle} {calls : List Exchange}

theorem Numbered.latest_eq_none (hw : w.Numbered) (hn : w.prepared < h.number) :
    latest h n w.history.reverse = none := by
  apply latest_eq_none_of_bind
  intro v hmem
  exact Nat.not_le_of_lt hn (hw _ (List.mem_reverse.mp hmem) h rfl)

theorem Numbered.said {runs : Rendered → Prop} (hw : w.Numbered) (hs : w.Said calls v)
    (hheld : ∀ h, held = some h → h.number ≤ w.prepared)
    (ht : Execution.Told runs w.prepared held kept calls v.prepared) :
    v.Numbered ∧ ∀ h, kept = some h → h.number ≤ v.prepared := by
  have hle := ht.accounted.le
  have hbound : ∀ {h}, held = some h ∨
      Execution.New (fun text => ∃ r, runs r ∧ text = r.sql) w.prepared v.prepared h →
        h.number ≤ v.prepared := by
    rintro h (hh | ⟨-, -, hn⟩)
    · exact Nat.le_trans (hheld h hh) hle
    · exact hn
  constructor
  · intro c hc h hh
    rw [hs, List.mem_append, List.mem_reverse] at hc
    rcases hc with hc | hc
    · exact hbound (ht.accounted.about c hc h hh)
    · exact Nat.le_trans (hw c hc h hh) hle
  · intro h hh
    exact hbound (ht.accounted.keeps h hh)

end World

namespace Execution

variable {runs : Rendered → Prop} {n m : Nat} {held kept : Option Handle} {calls : List Exchange}

theorem Told.latest_eq_none {part : List Exchange} {h : Handle} {k : Nat}
    (ht : Told runs n held kept calls m) (hk : ∀ r, runs r → k < 1 ∨ r.binds.length < k)
    (hp : ∀ c ∈ part, c ∈ calls) : latest h k part = none := by
  apply latest_eq_none_of_bind
  intro v hmem
  obtain ⟨r, hr, -, hlo, hhi⟩ := ht.fits h k v _ (hp _ hmem)
  rcases hk r hr with hk | hk
  · omega
  · omega

/-- If all that is run has the same values, those are what these calls have bound to a handle when
it is executed. -/
theorem Told.latest_executed {vs : List Value} {before after : List Exchange} {h : Handle}
    {answer : Except DriverError Outcome} (ht : Told runs n held kept calls m)
    (hruns : ∀ r, runs r → r.binds = vs) (hc : calls = before ++ .execute h answer :: after)
    (k : Nat) :
    latest h k before = if k < 1 then none else vs[k - 1]? := by
  obtain ⟨r, earlier, hr, -, hbefore⟩ := ht.executes before _ after hc h answer rfl
  rw [hbefore, latest_append, latest_bound, hruns r hr]
  by_cases hk : 1 ≤ k ∧ k ≤ vs.length
  · rw [if_neg (by omega), List.getElem?_eq_getElem (by omega)]
    rfl
  · have hearlier : latest h k earlier = none := by
      refine ht.latest_eq_none (fun x hx => ?_) fun d hd => ?_
      · rw [hruns x hx]
        omega
      · rw [hc, hbefore]
        exact List.mem_append_left _ (List.mem_append_left _ hd)
    rw [hearlier, Option.or_none]

end Execution

/-! ## What calls make of a query -/

namespace Command

variable {q : Raw} {groups : String → Option Conditions} {c : StatementCall} {d : Command}

theorem after_raw (q : Raw) (groups : String → Option Conditions) (c : StatementCall) :
    ∃ q', (raw q).after groups c = .raw q' ∧ q'.run.sql = q.run.sql ∧
      (c ≠ .change .clearBinds → q.run.binds <+: q'.run.binds) := by
  cases c with
  | change ch =>
    cases ch with
    | bind v => exact ⟨_, rfl, rfl, fun _ => List.prefix_append _ _⟩
    | binds vs => exact ⟨_, rfl, rfl, fun _ => List.prefix_append _ _⟩
    | clearBinds => exact ⟨_, rfl, rfl, fun hc => absurd rfl hc⟩
    | _ => exact ⟨q, rfl, rfl, fun _ => List.prefix_refl _⟩
  | _ => exact ⟨q, rfl, rfl, fun _ => List.prefix_refl _⟩

theorem mem_versions_raw (hd : d ∈ (raw q).versions groups c) : d = (raw q).after groups c := by
  cases c with
  | tree t => cases hd
  | _ => exact List.mem_singleton.mp hd

end Command

variable [Connection σ]

namespace Statement

/-- A query with the calls made on it and on those it was copied from, the last call first, and the
world as it is then. Between the calls others use the connection. -/
inductive Queried : List StatementCall → Statement → World σ → Prop where
  | opened (settings : Settings) (sql : String) {w} : w.Numbered →
      Queried [] (settings.query sql) w
  | copied {calls s w} : Queried calls s w → Queried calls s.clone w
  | meanwhile {calls s w v} : Queried calls s w → w.Elsewhere s.execution.held v →
      Queried calls s v
  | called {calls s w} {groups : String → Option Conditions} {c : StatementCall}
      {a : After σ Statement Answer} : Queried calls s w → s.call? groups w c = some a →
      Queried (c :: calls) a.next a.world

structure Attached (calls : List StatementCall) (s : Statement) (w : World σ) : Prop where
  raw : ∃ q, s.command = .raw q
  current : s.Current False
  numbered : w.Numbered
  held : ∀ h, s.execution.held = some h → h.number ≤ w.prepared
  based : ∀ h, s.execution.held = some h → latest h 0 w.history.reverse = none
  /-- Without values taken away, nothing is bound behind the last one. -/
  covered : .change .clearBinds ∉ calls → ∀ h, s.execution.held = some h →
    ∀ n, s.rendered.binds.length ≤ n → latest h (n + 1) w.history.reverse = none

variable {calls : List StatementCall} {s : Statement} {w v : World σ}
  {groups : String → Option Conditions} {c : StatementCall} {a : After σ Statement Answer}

theorem Attached.told (h : Attached calls s w) (ha : s.call? groups w c = some a) :
    ∃ said, w.Said said a.world ∧
      Execution.Told
        (fun r => (r = a.next.rendered ∨ s.counts? c = some r) ∧ r.binds = a.next.rendered.binds)
        w.prepared s.execution.held a.next.execution.held said a.world.prepared := by
  obtain ⟨q, hq⟩ := h.raw
  have hnext : a.next.rendered = (s.command.after groups c).render := by
    rw [(h.current.call? ha).rendered, call?_command ha]
  have hown : ∀ d ∈ s.command.versions groups c, d.render = a.next.rendered := by
    intro d hd
    rw [hnext]
    rw [hq] at hd ⊢
    rw [Command.mem_versions_raw hd]
  have hacts : Execution.Acts (· = a.next.rendered) (fun r => s.counts? c = some r) (fun _ => True)
      s.execution w a.next.execution a.world :=
    call?_acts ha h.current.toFaithful hown (.of_no_target (by rw [hq]; rfl)) fun _ hr => hr
  obtain ⟨said, hs, ht⟩ := hacts.works.told
  refine ⟨said, hs, ht.mono ?_⟩
  rintro r (rfl | hr)
  · exact ⟨Or.inl rfl, rfl⟩
  · refine ⟨Or.inr hr, ?_⟩
    cases c with
    | rowCount =>
      have hcount : s.command.counting? = some r := hr
      rw [hq] at hcount
      obtain ⟨-, hr⟩ := Option.ite_none_right_eq_some.mp hcount
      cases hr
      rw [hnext, hq]
      simp [Raw.count, Command.after, Command.render, Rendered.text, Rendered.ident]
    | _ => cases hr

theorem Attached.length_le (h : Attached calls s w) (ha : s.call? groups w c = some a)
    (hc : c ≠ .change .clearBinds) : s.rendered.binds.length ≤ a.next.rendered.binds.length := by
  obtain ⟨q, hq⟩ := h.raw
  obtain ⟨q', hafter, -, hkeep⟩ := Command.after_raw q groups c
  rw [(h.current.call? ha).rendered, call?_command ha, h.current.rendered, hq, hafter]
  exact (hkeep hc).length_le

theorem Attached.called (h : Attached calls s w) (ha : s.call? groups w c = some a) :
    Attached (c :: calls) a.next a.world := by
  obtain ⟨said, hs, ht⟩ := h.told ha
  obtain ⟨hnumbered, hheld⟩ := h.numbered.said hs h.held ht
  have hpast : a.world.history.reverse = w.history.reverse ++ said := by
    rw [hs, List.reverse_append, List.reverse_reverse]
  -- The handle afterwards is the one from before, or it is new and nothing is known of it.
  have hkept : ∀ k, a.next.execution.held = some k → ∀ n,
      (∀ r : Rendered, r.binds = a.next.rendered.binds → n < 1 ∨ r.binds.length < n) →
      (s.execution.held = some k → latest k n w.history.reverse = none) →
      latest k n a.world.history.reverse = none := by
    intro k hk n hn hold
    rw [hpast, latest_append, ht.latest_eq_none (fun r hr => hn r hr.2) fun _ hc => hc,
      Option.none_or]
    rcases ht.accounted.keeps k hk with hh | ⟨-, hnew, -⟩
    · exact hold hh
    · exact h.numbered.latest_eq_none hnew
  constructor
  · obtain ⟨q, hq⟩ := h.raw
    obtain ⟨q', hafter, -⟩ := Command.after_raw q groups c
    exact ⟨q', by rw [call?_command ha, hq, hafter]⟩
  · exact (h.current.call? ha).mono fun hf => hf.elim
  · exact hnumbered
  · exact hheld
  · intro k hk
    exact hkept k hk 0 (fun _ _ => Or.inl Nat.one_pos) (h.based k)
  · intro hclear k hk n hn
    have hcalls := List.not_mem_of_not_mem_cons hclear
    have hle := h.length_le ha (List.ne_of_not_mem_cons hclear).symm
    refine hkept k hk (n + 1) (fun r hr => Or.inr ?_) fun hh => ?_
    · rw [hr]
      omega
    · exact h.covered hcalls k hh n (Nat.le_trans hle hn)

omit [Connection σ] in
theorem Attached.meanwhile (h : Attached calls s w) (hv : w.Elsewhere s.execution.held v) :
    Attached calls s v := by
  obtain ⟨said, hs, hothers⟩ := hv.said
  have hpast : v.history.reverse = w.history.reverse ++ said := by
    rw [hs, List.reverse_append, List.reverse_reverse]
  have hsame : ∀ k, s.execution.held = some k → ∀ n,
      latest k n v.history.reverse = latest k n w.history.reverse := by
    intro k hk n
    have hnone : latest k n said = none := by
      apply latest_eq_none_of_bind
      intro u hmem
      exact hothers _ hmem k rfl hk
    rw [hpast, latest_append, hnone, Option.none_or]
  constructor
  · exact h.raw
  · exact h.current
  · exact hv.numbered
  · intro k hk
    exact Nat.le_trans (h.held k hk) hv.prepared
  · intro k hk
    rw [hsame k hk]
    exact h.based k hk
  · intro hclear k hk n hn
    rw [hsame k hk]
    exact h.covered hclear k hk n hn

theorem Queried.attached (h : Queried calls s w) : Attached calls s w := by
  induction h with
  | opened settings sql hw =>
    constructor
    · exact ⟨_, rfl⟩
    · exact current_of_new rfl rfl
    · exact hw
    · intro k hk
      cases hk
    · intro k hk
      cases hk
    · intro _ k hk
      cases hk
  | copied _ ih =>
    constructor
    · exact ih.raw
    · exact Current.withExecution ih.current.toFaithful
        (Execution.tells_of_state (by simp [Execution.clone]) (by simp [Execution.clone]))
    · exact ih.numbered
    · intro k hk
      cases hk
    · intro k hk
      cases hk
    · intro _ k hk
      cases hk
  | meanwhile _ hv ih => exact ih.meanwhile hv
  | called _ ha ih => exact ih.called ha

theorem Queried.changed {t : Statement} {ch : Change} (h : Queried calls s w)
    (ht : s.change? ch w = some (t, v)) : Queried (.change ch :: calls) t v := by
  have ha : s.call? (fun _ => none) w (.change ch) = some ⟨.done, t, v⟩ := by
    simp only [call?, ht, Option.map]
  exact h.called ha

theorem Queried.executed (h : Queried calls s w) :
    Queried (.execute :: calls) (s.execute w).next (s.execute w).world := by
  have ha : s.call? (fun _ => none) w .execute =
      some (answered (fun _ => .done) (s.execute w)) := rfl
  exact h.called ha

omit [Connection σ] in
/-- A handle that a call is about has bound what it had bound before, if it was held, or else
nothing. -/
theorem Attached.latest_past (h : Attached calls s w) {runs : Rendered → Prop} {m : Nat}
    {kept : Option Handle} {said : List Exchange} {d : Exchange} {k : Handle}
    (ht : Execution.Told runs w.prepared s.execution.held kept said m) (hd : d ∈ said)
    (hk : d.handle? = some k) (n : Nat) :
    latest k n w.history.reverse =
      if s.execution.held = some k then latest k n w.history.reverse else none := by
  by_cases hheld : s.execution.held = some k
  · rw [if_pos hheld]
  · rw [if_neg hheld]
    rcases ht.accounted.about d hd k hk with hh | ⟨-, hnew, -⟩
    · exact absurd hh hheld
    · exact h.numbered.latest_eq_none hnew

/-- When a query executes its handle, every position up to the number of its values has the value
that the query has there now. Any further position still has what earlier runs have bound to it, if
the handle is the one from before the call. Nothing is left there if values have never been taken
away. -/
theorem query_binds_over_leftovers (hq : Queried calls s w) (ha : s.call? groups w c = some a) :
    ∃ said, w.Said said a.world ∧
      ∀ before k answer after, said = before ++ .execute k answer :: after →
        (k.text = a.next.rendered.sql ∨ ∃ r, s.counts? c = some r ∧ k.text = r.sql) ∧
        latest k 0 (w.history.reverse ++ before) = none ∧
        (∀ n, latest k (n + 1) (w.history.reverse ++ before) =
          a.next.rendered.binds[n]?.or
            (if s.execution.held = some k then latest k (n + 1) w.history.reverse else none)) ∧
        (.change .clearBinds ∉ c :: calls → ∀ n,
          latest k (n + 1) (w.history.reverse ++ before) = a.next.rendered.binds[n]?) := by
  have h := hq.attached
  obtain ⟨said, hs, ht⟩ := h.told ha
  refine ⟨said, hs, fun before k answer after hsaid => ?_⟩
  have hmem : .execute k answer ∈ said := by simp [hsaid]
  have hpast := h.latest_past ht hmem rfl
  have hbound := ht.latest_executed (fun r hr => hr.2) hsaid
  have hlaw : ∀ n, latest k (n + 1) (w.history.reverse ++ before) =
      a.next.rendered.binds[n]?.or
        (if s.execution.held = some k then latest k (n + 1) w.history.reverse else none) := by
    intro n
    rw [latest_append, hbound, if_neg (by omega), Nat.add_sub_cancel, ← hpast]
  refine ⟨?_, ?_, hlaw, fun hclear n => ?_⟩
  · obtain ⟨r, -, ⟨hr, -⟩, htext, -⟩ := ht.executes before _ after hsaid k answer rfl
    rcases hr with rfl | hr
    · exact Or.inl htext
    · exact Or.inr ⟨r, hr, htext⟩
  · rw [latest_append, hbound, if_pos Nat.one_pos, hpast, Option.none_or]
    by_cases hk : s.execution.held = some k
    · rw [if_pos hk]
      exact h.based k hk
    · exact if_neg hk
  · rw [hlaw]
    by_cases hn : n < a.next.rendered.binds.length
    · rw [List.getElem?_eq_getElem hn]
      rfl
    · have hcalls := List.not_mem_of_not_mem_cons hclear
      have hle := h.length_le ha (List.ne_of_not_mem_cons hclear).symm
      by_cases hk : s.execution.held = some k
      · rw [if_pos hk, h.covered hcalls k hk n (by omega), Option.or_none]
      · rw [if_neg hk, Option.or_none]

/-- A query that is run for one value and then for two has both bound, on the same handle. -/
theorem query_with_another_value_binds_both :
    let h : Handle := ⟨1, "DELETE FROM t WHERE a = ? AND b = ?"⟩
    ∃ (calls : List StatementCall) (s : Statement) (w : World Scripted)
      (a : After Scripted Statement Answer) (said before : List Exchange)
      (answer : Except DriverError Outcome),
      Queried calls s w ∧ s.call? (fun _ => none) w .execute = some a ∧ w.Said said a.world ∧
        said = before ++ [.execute h answer] ∧ s.execution.held = some h ∧
        StatementCall.change .clearBinds ∉ .execute :: calls ∧
        ∀ n, latest h (n + 1) (w.history.reverse ++ before) =
          [Value.int 5, Value.int 6][n]? := by
  intro h
  let w : World Scripted :=
    { driver := { responses :=
        [{ reply := .outcome (.affected 0) }, { reply := .outcome (.affected 0) }] } }
  have hopened : Queried [] (Settings.query {} h.text) w :=
    .opened {} _ (by simp [w, World.Numbered])
  have hone : Queried [.change (.bind (.int 5))] _ _ := hopened.changed rfl
  have htwo : Queried (.change (.bind (.int 6)) :: _) _ _ := hone.executed.changed rfl
  obtain ⟨said, hs, hlaw⟩ := query_binds_over_leftovers htwo
    (show call? (fun _ => none) _ _ .execute = some _ from rfl)
  have hsaid : said = [.bind h 1 (.int 5) (.ok ()), .bind h 2 (.int 6) (.ok ())] ++
      [.execute h (.ok (.affected 0))] := hs.unique rfl
  obtain ⟨-, -, -, hclear⟩ := hlaw _ _ _ [] hsaid
  exact ⟨_, _, _, _, _, _, _, htwo, rfl, hs, hsaid, rfl, by simp, hclear (by simp)⟩

/-- A query that has been run for two values and is then run for another one still has the second of
the two bound. -/
theorem query_with_fewer_values_keeps_old_one :
    let h : Handle := ⟨1, "DELETE FROM t WHERE a = ? AND b = ?"⟩
    ∃ (calls : List StatementCall) (s : Statement) (w v : World Scripted) (before : List Exchange)
      (answer : Except DriverError Outcome),
      Queried calls s w ∧ (s.execute w).world = v ∧
        w.Said (before ++ [.execute h answer]) v ∧ s.rendered.binds = [.int 7] ∧
        latest h 2 (w.history.reverse ++ before) = some (.int 6) := by
  intro h
  let w : World Scripted :=
    { driver := { responses :=
        [{ reply := .outcome (.affected 0) }, { reply := .outcome (.affected 0) }] } }
  have hopened : Queried [] (Settings.query {} h.text) w :=
    .opened {} _ (by simp [w, World.Numbered])
  have hone : Queried [.change (.bind (.int 5))] _ _ := hopened.changed rfl
  have htwo : Queried (.change (.bind (.int 6)) :: _) _ _ := hone.changed rfl
  have hnone : Queried (.change .clearBinds :: _) _ _ := htwo.executed.changed rfl
  have hseven : Queried (.change (.bind (.int 7)) :: _) _ _ := hnone.changed rfl
  exact ⟨_, _, _, _, [.bind h 1 (.int 7) (.ok ())], .ok (.affected 0), hseven, rfl, rfl, rfl, rfl⟩

end Statement

end SqlClient
