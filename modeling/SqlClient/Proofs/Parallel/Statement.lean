import SqlClient.Proofs.Parallel.Catalog
import SqlClient.Session.StatementCall

/-! # Statements side by side

The calls on a statement in two worlds that are alike. A statement and its counterpart render the
same, are in the same state, and stay counterparts whatever is asked of both.
-/
namespace SqlClient

theorem Insert.missing_target (q : Insert) (t : Table) :
    Insert.missing { q with target := t } = q.missing := rfl

namespace Command

def mapDebug (g : Bool → Bool) : Command → Command
  | insert q => insert { q with target := q.target.mapDebug g }
  | update q => update { q with target := q.target.mapDebug g }
  | c => c

variable (g : Bool → Bool) (c : Command)

@[simp] theorem mapDebug_render : (c.mapDebug g).render = c.render := by
  cases c <;> rfl

@[simp] theorem mapDebug_isReady : (c.mapDebug g).isReady = c.isReady := by
  cases c <;> rfl

@[simp] theorem mapDebug_conditions? : (c.mapDebug g).conditions? = c.conditions? := by
  cases c <;> rfl

theorem edit_mapDebug (e : Edit) : (c.mapDebug g).edit e = (c.edit e).mapDebug g := by
  cases c <;> rfl

theorem change?_mapDebug (d : Change) :
    (c.mapDebug g).change? d = (c.change? d).map (mapDebug g) := by
  cases c <;> cases d <;> rfl

end Command

namespace Statement

/-- Statements that differ in how they are logged and in their handles, which correspond. -/
inductive Alike (g : Bool → Bool) (K : Handle → Handle → Prop) (s : Statement) :
    Statement → Prop where
  | recast {y : Execution} : s.execution.Alike g K y →
      Alike g K s ⟨s.command.mapDebug g, s.cache, y⟩

namespace Alike

variable {g : Bool → Bool} {K : Handle → Handle → Prop} {s t : Statement}

theorem command (hs : s.Alike g K t) : t.command = s.command.mapDebug g := by
  cases hs
  rfl

theorem execution (hs : s.Alike g K t) : s.execution.Alike g K t.execution := by
  cases hs with
  | recast hx => exact hx

theorem rendered (hs : s.Alike g K t) : t.rendered = s.rendered := by
  cases hs
  simp [Statement.rendered]

theorem isReady (hs : s.Alike g K t) : t.isReady = s.isReady := by
  cases hs
  exact s.command.mapDebug_isReady g

theorem isAutoExecute (hs : s.Alike g K t) : t.isAutoExecute = s.isAutoExecute := by
  cases hs with
  | recast hx => cases hx; rfl

theorem withExecution (hs : s.Alike g K t) {x y : Execution} (hx : x.Alike g K y) :
    Alike g K { s with execution := x } { t with execution := y } := by
  cases hs
  exact .recast (s := { s with execution := x }) hx

theorem withCommand (hs : s.Alike g K t) (c : Command) :
    Alike g K { s with command := c } { t with command := c.mapDebug g } := by
  cases hs with
  | recast hx => exact .recast (s := { s with command := c }) hx

theorem outdated (hs : s.Alike g K t) (c : Command) :
    Alike g K { s with command := c, cache := none }
      { t with command := c.mapDebug g, cache := none } := by
  cases hs with
  | recast hx => exact .recast (s := { s with command := c, cache := none }) hx

theorem keepRendered (hs : s.Alike g K t) : s.keepRendered.Alike g K t.keepRendered := by
  have hr := hs.rendered
  unfold Statement.keepRendered
  rw [hr]
  cases hs with
  | recast hx => exact .recast (s := { s with cache := some s.rendered }) hx

theorem autoExecute (hs : s.Alike g K t) (b : Bool) :
    (s.autoExecute b).Alike g K (t.autoExecute b) := by
  cases hs with
  | recast hx =>
    cases hx with
    | recast hk => exact .recast (s := s.autoExecute b) (.recast (x := (s.autoExecute b).execution) hk)

theorem autoMigrate? (hs : s.Alike g K t) (b : Bool) :
    Option.Rel (Alike g K) (s.autoMigrate? b) (t.autoMigrate? b) := by
  cases hs with
  | recast hx =>
    obtain ⟨command, cache, x⟩ := s
    cases command with
    | insert q => exact .some (.recast (s := ⟨.insert { q with autoMigrate := b }, cache, x⟩) hx)
    | update q => exact .some (.recast (s := ⟨.update { q with autoMigrate := b }, cache, x⟩) hx)
    | select | delete | raw => exact .none

end Alike

variable {σ τ : Type} [Connection σ] [Connection τ] {g : Bool → Bool}
  {K : Handle → Handle → Prop} {W : World σ → World τ → Prop} {w : World σ} {v : World τ}
  {s t : Statement}

theorem migrate_alike (L : Likeness K W) (h : W w v) (t : Table)
    (values : OrderedMap Ident Value) (m : Migration) :
    Agrees W Eq (migrate t values m w) (migrate (t.mapDebug g) values m v) := by
  have he := Table.ensureColumns_alike g L h t values.entries
  unfold migrate
  dsimp only
  rw [he.same]
  rcases (t.ensureColumns values.entries w).1 with e | _ | _
  · exact ⟨rfl, he.world⟩
  · exact ⟨rfl, he.world⟩
  · exact ⟨rfl, L.note he.world _ _⟩

theorem preflight_alike (L : Likeness K W) (h : W w v) (hs : s.Alike g K t) :
    Agrees W Eq (s.preflight w) (t.preflight v) := by
  unfold preflight
  rw [hs.rendered, hs.command]
  cases s.command with
  | insert q =>
    dsimp only [Command.mapDebug]
    rw [Insert.missing_target q (q.target.mapDebug g)]
    split
    · exact ⟨rfl, h⟩
    · split
      · exact ⟨rfl, h⟩
      · split
        · exact migrate_alike L h q.target q.values .insert
        · exact ⟨rfl, h⟩
  | update q =>
    dsimp only [Command.mapDebug]
    split
    · exact ⟨rfl, h⟩
    · split
      · exact migrate_alike L h q.target q.values .update
      · exact ⟨rfl, h⟩
  | select | delete | raw => exact ⟨rfl, h⟩

theorem execute_alike (L : Likeness K W) (h : W w v) (hs : s.Alike g K t) :
    After.Agrees W (Alike g K) Eq (s.execute w) (t.execute v) := by
  have hk := hs.keepRendered
  have hp := preflight_alike L h hk
  have hr := Execution.run_alike L hp.world hk.execution s.keepRendered.rendered
  unfold execute
  dsimp only
  rw [hp.same, hk.rendered]
  rcases (s.keepRendered.preflight w).1 with e | _
  · exact ⟨rfl, hk.withExecution (hk.execution.fail e), hp.world⟩
  · exact ⟨hr.result, hk.withExecution hr.next, hr.world⟩

theorem close_alike (L : Likeness K W) (h : W w v) (hs : s.Alike g K t) :
    Agrees W (Alike g K) (s.close w) (t.close v) := by
  have hc := Execution.close_alike L h hs.execution
  exact ⟨hs.withExecution hc.answer, hc.world⟩

theorem settle_alike (L : Likeness K W) (h : W w v) (hs : s.Alike g K t) :
    Agrees W (Alike g K) (s.settle w) (t.settle v) := by
  unfold settle
  rw [hs.isAutoExecute, hs.isReady]
  split
  · split
    · have he := execute_alike L h hs
      exact ⟨he.next, he.world⟩
    · exact close_alike L h hs
  · exact ⟨hs.withExecution hs.execution.reset, h⟩

theorem update_alike (L : Likeness K W) (h : W w v) (hs : s.Alike g K t) (c : Command) :
    Agrees W (Alike g K) (s.update c w) (t.update (c.mapDebug g) v) :=
  settle_alike L h (hs.outdated c)

theorem edit_alike (L : Likeness K W) (h : W w v) (hs : s.Alike g K t) (e : Edit) :
    Agrees W (Alike g K) (s.edit w e) (t.edit v e) := by
  have hc : t.command.edit e = (s.command.edit e).mapDebug g := by
    rw [hs.command, s.command.edit_mapDebug]
  cases e with
  | join c =>
    unfold edit
    dsimp only
    rw [hc]
    exact ⟨hs.withCommand _, h⟩
  | append term =>
    unfold edit
    dsimp only
    rw [hc]
    exact update_alike L h hs _

theorem edits_alike (L : Likeness K W) (h : W w v) (hs : s.Alike g K t) (es : List Edit) :
    Agrees W (Alike g K) (s.edits es w) (t.edits es v) := by
  induction es generalizing s t w v with
  | nil => exact ⟨hs, h⟩
  | cons e es ih =>
    have he := edit_alike L h hs e
    exact ih he.world he.answer

theorem ensureExecuted_alike (L : Likeness K W) (h : W w v) (hs : s.Alike g K t) :
    After.Agrees W (Alike g K) Eq (s.ensureExecuted w) (t.ensureExecuted v) := by
  have hrun := execute_alike L h hs
  unfold ensureExecuted
  rw [hs.execution.state, hs.execution.lastError]
  cases s.execution.state with
  | executed => exact ⟨rfl, hs, h⟩
  | failed =>
    dsimp only
    cases s.execution.lastError with
    | none => exact hrun
    | some e => exact ⟨rfl, hs, h⟩
  | unexecuted | closed => exact hrun

theorem read_alike (L : Likeness K W) (h : W w v) (hs : s.Alike g K t) {α : Type}
    {reading : Execution → Except QueryError α × Execution}
    (hr : ∀ x k, reading (x.recast g k) = ((reading x).1, (reading x).2.recast g k))
    (hk : ∀ x, (reading x).2.held = x.held) :
    After.Agrees W (Alike g K) Eq (s.read reading w) (t.read reading v) := by
  have he := ensureExecuted_alike L h hs
  unfold read
  dsimp only
  rw [he.same]
  rcases (s.ensureExecuted w).result with e | _
  · exact ⟨rfl, he.next, he.world⟩
  · obtain ⟨hanswer, hnext⟩ := he.next.execution.reading hr hk
    exact ⟨hanswer.symm, he.next.withExecution hnext, he.world⟩

theorem fetch_alike (L : Likeness K W) (h : W w v) (hs : s.Alike g K t) (f : Fetch) :
    After.Agrees W (Alike g K) Eq (s.fetch f w) (t.fetch f v) :=
  read_alike L h hs (fun x k => x.fetch_recast g k f) fun x => x.fetch_held f

theorem set_alike (L : Likeness K W) (h : W w v) (hs : s.Alike g K t) :
    After.Agrees W (Alike g K) Eq (s.set w) (t.set v) := by
  apply read_alike L h hs
  · intro x k
    dsimp only
    rw [Execution.all_recast]
  · intro x
    exact x.fetched_all.held

theorem affectedRows_alike (L : Likeness K W) (h : W w v) (hs : s.Alike g K t) :
    After.Agrees W (Alike g K) Eq (s.affectedRows w) (t.affectedRows v) :=
  read_alike L h hs (fun _ _ => rfl) fun _ => rfl

theorem rowCount_alike (L : Likeness K W) (h : W w v) (hs : s.Alike g K t) :
    After.Agrees W (Alike g K) Eq (s.rowCount w) (t.rowCount v) := by
  have ha := affectedRows_alike L h hs
  have hcount := fun r => Execution.count_alike L h hs.execution r
  unfold rowCount
  rw [hs.command]
  cases s.command with
  | select q => exact ⟨(hcount q.count).answer, hs, (hcount q.count).world⟩
  | raw q =>
    dsimp only [Command.mapDebug]
    split
    · exact ⟨(hcount q.count).answer, hs, (hcount q.count).world⟩
    · exact ha
  | insert | update | delete => exact ha

theorem first?_alike (L : Likeness K W) (h : W w v) (hs : s.Alike g K t) :
    Option.Rel (After.Agrees W (Alike g K) Eq) (s.first? w) (t.first? v) := by
  unfold first?
  rw [hs.command]
  cases s.command with
  | select q =>
    dsimp only [Command.mapDebug]
    split
    · exact .some (fetch_alike L h hs _)
    · have hu := update_alike L h hs (.select { q with limit := some 1 })
      exact .some (fetch_alike L hu.world hu.answer _)
  | insert | update | delete | raw => exact .none

section Calls

variable {α : Type} {p : After σ Statement (Except QueryError α)}
  {q : After τ Statement (Except QueryError α)}

omit [Connection σ] [Connection τ] in
theorem answered_alike (answer : α → Answer) (h : After.Agrees W (Alike g K) Eq p q) :
    After.Agrees W (Alike g K) Eq (answered answer p) (answered answer q) :=
  ⟨congrArg (Answer.of answer) h.result, h.next, h.world⟩

end Calls

theorem access_alike (L : Likeness K W) (h : W w v) (hs : s.Alike g K t) (a : Accessor) :
    After.Agrees W (Alike g K) Eq (s.access w a) (t.access v a) := by
  cases a with
  | row | rowFirst | rowLast | rowAt | map | rowStrings | mapStrings =>
    exact answered_alike _ (fetch_alike L h hs _)
  | set | setStrings => exact answered_alike _ (set_alike L h hs)
  | affectedRows => exact answered_alike _ (affectedRows_alike L h hs)

theorem tree?_alike (L : Likeness K W) (h : W w v) (hs : s.Alike g K t)
    (groups : String → Option Conditions) (c : TreeCall) :
    Option.Rel (After.Agrees W (Alike g K) Eq) (s.tree? groups c w) (t.tree? groups c v) := by
  unfold tree?
  rw [hs.command, Command.mapDebug_conditions?]
  cases s.command.conditions? with
  | none => exact .none
  | some here =>
    have he := edits_alike L (L.notes h (c.reply groups here).events) hs
      (c.reply groups here).edits
    exact .some ⟨rfl, he.answer, he.world⟩

theorem call?_alike (L : Likeness K W) (h : W w v) (hs : s.Alike g K t)
    (groups : String → Option Conditions) (c : StatementCall) :
    Option.Rel (After.Agrees W (Alike g K) Eq) (s.call? groups w c) (t.call? groups v c) := by
  cases c with
  | change d =>
    unfold call? change?
    dsimp only
    rw [hs.command, Command.change?_mapDebug]
    cases s.command.change? d with
    | none => exact .none
    | some command =>
      have hu := update_alike L h hs command
      exact .some ⟨rfl, hu.answer, hu.world⟩
  | tree c => exact tree?_alike L h hs groups c
  | access a => exact .some (access_alike L h hs a)
  | rowCount => exact .some (answered_alike _ (rowCount_alike L h hs))
  | first =>
    unfold call?
    dsimp only
    have hf := first?_alike L h hs
    generalize s.first? w = p, t.first? v = q at hf
    cases hf with
    | none => exact .none
    | some hf => exact .some (answered_alike _ hf)
  | execute => exact .some (answered_alike _ (execute_alike L h hs))
  | close =>
    have hc := close_alike L h hs
    exact .some ⟨rfl, hc.answer, hc.world⟩
  | render => exact .some ⟨congrArg Answer.rendering hs.rendered.symm, hs.keepRendered, h⟩
  | autoExecute b => exact .some ⟨rfl, hs.autoExecute b, h⟩
  | isAutoExecute => exact .some ⟨congrArg Answer.truth hs.isAutoExecute.symm, hs, h⟩
  | isReady => exact .some ⟨congrArg Answer.truth hs.isReady.symm, hs, h⟩
  | autoMigrate b =>
    have hm := hs.autoMigrate? b
    unfold call?
    dsimp only
    generalize s.autoMigrate? b = p, t.autoMigrate? b = q at hm
    cases hm with
    | none => exact .none
    | some hm => exact .some ⟨rfl, hm, h⟩
  | requiredColumns | missingColumns =>
    unfold call?
    dsimp only
    rw [hs.command]
    cases s.command with
    | insert q => exact .some ⟨rfl, hs, h⟩
    | select | update | delete | raw => exact .none

end Statement

theorem Table.insert_alike {σ τ : Type} [Connection σ] [Connection τ]
    {K : Handle → Handle → Prop} {W : World σ → World τ → Prop} {w : World σ} {v : World τ}
    (g : Bool → Bool) (L : Likeness K W) (h : W w v) (t : Table) :
    Agrees W (Matches (Statement.Alike g K)) (t.insert w) ((t.mapDebug g).insert v) := by
  have hc := columnsIfListed_alike g L h t
  refine ⟨?_, hc.world⟩
  unfold Table.insert
  dsimp only
  rw [hc.answer]
  rcases (t.columnsIfListed w).1 with e | columns
  · exact .error e
  · have hnew : Execution.Alike g K { settings := t.settings }
        { settings := (t.mapDebug g).settings } := .recast (k := none) .none
    cases columns <;> exact .ok (.recast hnew)

end SqlClient
