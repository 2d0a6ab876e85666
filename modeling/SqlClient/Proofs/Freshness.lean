import SqlClient.Proofs.Execution.Retry
import SqlClient.Proofs.Preflight
import SqlClient.Proofs.Reached

/-! # No result of an older version

The rendering that is kept, the run that is remembered and the error that is kept all belong to the
command as it is now. An error of a migration is about the catalog instead, so errors are only spoken
of where no migration was asked for.
-/
namespace SqlClient

/-! ## Executions -/

namespace Execution

/-- What has been executed is `r`, and so is what has failed, provided that `calm` holds. -/
structure Tells (x : Execution) (r : Rendered) (calm : Prop) : Prop where
  executed : x.state = .executed → x.lastRun = some r
  failed : x.state = .failed → ∃ e, x.lastError = some e ∧ (calm → e.run? = some r)

variable {x : Execution} {r : Rendered} {calm : Prop}

theorem Tells.mono {calm' : Prop} (h : x.Tells r calm) (hc : calm' → calm) : x.Tells r calm' :=
  ⟨h.executed, fun hf => let ⟨e, he, hr⟩ := h.failed hf; ⟨e, he, fun k => hr (hc k)⟩⟩

theorem tells_of_state (he : x.state ≠ .executed) (hf : x.state ≠ .failed) : x.Tells r calm :=
  ⟨fun h => absurd h he, fun h => absurd h hf⟩

theorem run?_ofDriver (e : DriverError) (r : Rendered) :
    (QueryError.ofDriver e r).run? = some r := by
  unfold QueryError.ofDriver
  split <;> rfl

/-- A run or a reading ends executed, with a result, or failed, with the error that it gives. -/
structure Settled {α : Type} (r : Rendered) (calm : Prop) (result : Except QueryError α)
    (x : Execution) : Prop where
  ok : ∀ a, result = .ok a → x.state = .executed ∧ x.lastRun = some r
  error : ∀ e, result = .error e →
    x.state = .failed ∧ x.lastError = some e ∧ (calm → e.run? = some r)

theorem settled_ok {α : Type} {a : α} (hs : x.state = .executed) (hl : x.lastRun = some r) :
    Settled r calm (.ok a) x :=
  ⟨fun _ _ => ⟨hs, hl⟩, fun _ he => by cases he⟩

theorem settled_error {α : Type} {e : QueryError} (hs : x.state = .failed)
    (hl : x.lastError = some e) (hr : calm → e.run? = some r) :
    Settled r calm (.error e : Except QueryError α) x := by
  constructor
  · intro a ha
    cases ha
  · intro e' he
    cases he
    exact ⟨hs, hl, hr⟩

theorem Settled.map {α β : Type} {result : Except QueryError α} (h : Settled r calm result x)
    (f : α → β) : Settled r calm (result.map f) x := by
  cases result with
  | ok a => exact settled_ok (h.ok a rfl).1 (h.ok a rfl).2
  | error e =>
    obtain ⟨hs, hl, hr⟩ := h.error e rfl
    exact settled_error hs hl hr

theorem Settled.mono {α : Type} {result : Except QueryError α} (h : Settled r True result x)
    (calm : Prop) : Settled r calm result x :=
  ⟨h.ok, fun e he => let ⟨hs, hl, hr⟩ := h.error e he; ⟨hs, hl, fun _ => hr trivial⟩⟩

theorem Settled.tells {α : Type} {result : Except QueryError α} (h : Settled r calm result x) :
    x.Tells r calm := by
  cases result with
  | ok a =>
    obtain ⟨hs, hl⟩ := h.ok a rfl
    exact ⟨fun _ => hl, fun hf => absurd (hs.symm.trans hf) (by decide)⟩
  | error e =>
    obtain ⟨hs, hl, hr⟩ := h.error e rfl
    exact ⟨fun he => absurd (hs.symm.trans he) (by decide), fun _ => ⟨e, hl, hr⟩⟩

theorem settled_run {σ : Type} [Connection σ] (x : Execution) (r : Rendered) (w : World σ)
    (calm : Prop) : Settled r calm (x.run r w).result (x.run r w).next := by
  obtain ⟨_, _, _, _, _, -, -, ⟨o, -, hr, hn⟩ | ⟨e, -, hr, hn⟩⟩ := run_cases x r w
  · rw [hr, hn]
    cases o <;> exact settled_ok rfl rfl
  · rw [hr, hn]
    exact settled_error rfl rfl fun _ => run?_ofDriver e r

def Reads {α : Type} (reading : Execution → Except QueryError α × Execution) : Prop :=
  ∀ x r, x.state = .executed → x.lastRun = some r →
    Settled r True (reading x).1 (reading x).2

theorem reads_fetch (f : Fetch) : Reads fun x => x.fetch f := by
  intro x r hs hl
  dsimp only
  unfold fetch
  split
  · exact settled_ok hs hl
  · split
    · exact settled_ok hs hl
    · split
      · exact settled_ok hs hl
      · exact settled_ok hs hl
      · refine settled_error rfl rfl fun _ => ?_
        rw [run?_ofDriver, hl]
        rfl

theorem reads_remaining (budget : Nat) : Reads (remaining budget) := by
  induction budget with
  | zero => exact fun x r hs hl => settled_ok hs hl
  | succ budget ih =>
    intro x r hs hl
    have hf := reads_fetch (.move .next) x r hs hl
    unfold remaining
    dsimp only at hf
    generalize x.fetch (.move .next) = p at hf ⊢
    rcases p with ⟨e | _ | row, y⟩
    · obtain ⟨hs, hl, hr⟩ := hf.error e rfl
      exact settled_error hs hl hr
    · obtain ⟨hs, hl⟩ := hf.ok none rfl
      exact settled_ok hs hl
    · obtain ⟨hs, hl⟩ := hf.ok (some row) rfl
      have hm := (ih y r hs hl).map (row :: ·)
      dsimp only
      generalize remaining budget y = q at hm ⊢
      rcases q with ⟨_ | _, _⟩ <;> exact hm

theorem reads_all : Reads all := by
  intro x r hs hl
  have hf := reads_fetch (.move .first) x r hs hl
  unfold all
  dsimp only at hf
  generalize x.fetch (.move .first) = p at hf ⊢
  rcases p with ⟨e | _ | row, y⟩
  · obtain ⟨hs, hl, hr⟩ := hf.error e rfl
    exact settled_error hs hl hr
  · obtain ⟨hs, hl⟩ := hf.ok none rfl
    exact settled_ok hs hl
  · obtain ⟨hs, hl⟩ := hf.ok (some row) rfl
    have hm := (reads_remaining y.rowBound y r hs hl).map (row :: ·)
    dsimp only
    generalize remaining y.rowBound y = q at hm ⊢
    rcases q with ⟨_ | _, _⟩ <;> exact hm

end Execution

/-! ## Commands -/

namespace Command

theorem render_edit_join (c : Command) (k : Connective) : (c.edit (.join k)).render = c.render := by
  cases c <;> rfl

theorem migrates_edit (c : Command) (e : Edit) : (c.edit e).migrates = c.migrates := by
  cases c <;> rfl

theorem migrates_change? {c d : Command} {ch : Change} (h : c.change? ch = some d) :
    d.migrates = c.migrates := by
  cases c with
  | select q =>
    obtain ⟨q', -, rfl⟩ := Option.map_eq_some_iff.mp h
    rfl
  | delete q =>
    obtain ⟨q', -, rfl⟩ := Option.map_eq_some_iff.mp h
    rfl
  | raw q =>
    obtain ⟨q', -, rfl⟩ := Option.map_eq_some_iff.mp h
    rfl
  | insert q =>
    obtain ⟨q', hq, rfl⟩ := Option.map_eq_some_iff.mp h
    cases ch <;> simp only [Insert.change?, Option.some.injEq, reduceCtorEq] at hq <;>
      (subst hq; rfl)
  | update q =>
    obtain ⟨q', hq, rfl⟩ := Option.map_eq_some_iff.mp h
    cases ch <;> simp only [Update.change?, Option.some.injEq, reduceCtorEq] at hq <;>
      (subst hq; rfl)

end Command

/-! ## Statements -/

namespace Statement

/-- The rendering that is kept is the one of the command, and a migration may only be due if one has
been asked for. -/
structure Faithful (s : Statement) (calm : Prop) : Prop where
  cache : ∀ r, s.cache = some r → r = s.command.render
  still : calm → s.command.migrates = false

/-- The result belongs to the command too. -/
structure Current (s : Statement) (calm : Prop) : Prop extends Faithful s calm where
  tells : s.execution.Tells s.command.render calm

variable {s : Statement} {calm : Prop}

theorem Faithful.rendered (h : s.Faithful calm) : s.rendered = s.command.render := by
  unfold Statement.rendered
  cases hc : s.cache with
  | none => rfl
  | some r => exact h.cache r hc

theorem Faithful.keepRendered (h : s.Faithful calm) : s.keepRendered.Faithful calm :=
  ⟨fun _ hr => (Option.some.inj hr).symm.trans h.rendered, h.still⟩

theorem faithful_of_no_cache {c : Command} {x : Execution} (h : calm → c.migrates = false) :
    Faithful ⟨c, none, x⟩ calm :=
  ⟨fun _ hr => (by cases hr), h⟩

theorem Current.mono {calm' : Prop} (h : s.Current calm) (hc : calm' → calm) : s.Current calm' :=
  ⟨⟨h.cache, fun k => h.still (hc k)⟩, h.tells.mono hc⟩

theorem Current.keepRendered (h : s.Current calm) : s.keepRendered.Current calm :=
  ⟨h.toFaithful.keepRendered, h.tells⟩

theorem Current.withExecution {x : Execution} (h : s.Faithful calm)
    (hx : x.Tells s.command.render calm) : Current { s with execution := x } calm :=
  ⟨⟨h.cache, h.still⟩, hx⟩

/-- A reading of the result settles it, unless it was settled before. -/
structure Settles {σ α : Type} (s : Statement) (calm : Prop)
    (a : After σ Statement (Except QueryError α)) : Prop where
  current : a.next.Current calm
  settled : Execution.Settled s.command.render calm a.result a.next.execution

theorem Settles.of_faithful {σ α : Type} {a : After σ Statement (Except QueryError α)}
    (h : a.next.Faithful calm) (hc : a.next.command = s.command)
    (hs : Execution.Settled s.command.render calm a.result a.next.execution) : Settles s calm a :=
  ⟨⟨h, hc ▸ hs.tells⟩, hs⟩

section Run

variable {σ : Type} [Connection σ]

theorem preflight_error (hm : s.command.migrates = false) {e : QueryError} {w : World σ}
    (he : (s.preflight w).1 = .error e) : e.run? = some s.rendered := by
  rcases s.preflight_cases w with ⟨t, f, -, -, hp⟩ | ⟨-, ⟨t, values, m, -, -, hyes, -⟩ | ⟨-, hp⟩⟩
  · rw [hp] at he
    cases he
    rfl
  · rw [hm] at hyes
    cases hyes
  · rw [hp] at he
    cases he

theorem Faithful.execute (h : s.Faithful calm) (w : World σ) :
    (s.execute w).next.Faithful calm ∧
      Execution.Settled s.command.render calm (s.execute w).result
        (s.execute w).next.execution := by
  have hk := h.keepRendered
  have hr : s.keepRendered.rendered = s.command.render := hk.rendered
  unfold Statement.execute
  dsimp only
  cases hp : (s.keepRendered.preflight w).1 with
  | error e =>
    refine ⟨⟨hk.cache, hk.still⟩, Execution.settled_error rfl rfl fun hc => ?_⟩
    rw [preflight_error (hk.still hc) hp, hr]
  | ok a =>
    dsimp only
    rw [hr]
    exact ⟨⟨hk.cache, hk.still⟩, Execution.settled_run _ _ _ calm⟩

theorem Faithful.executed_current (h : s.Faithful calm) (w : World σ) :
    (s.execute w).next.Current calm := by
  obtain ⟨hf, hs⟩ := h.execute w
  refine ⟨hf, ?_⟩
  rw [s.execute_command w]
  exact hs.tells

theorem close_current (h : s.Faithful calm) (w : World σ) : (s.close w).1.Current calm :=
  Current.withExecution h (Execution.tells_of_state (by simp) (by simp))

/-- Whatever was known of a result before, after a change it is run anew or forgotten. -/
theorem settle_current (h : s.Faithful calm) (w : World σ) : (s.settle w).1.Current calm := by
  unfold settle
  split
  · split
    · exact h.executed_current w
    · exact close_current h w
  · exact Current.withExecution h (Execution.tells_of_state (by simp [Execution.reset])
      (by simp [Execution.reset]))

theorem update_current {c : Command} (h : calm → c.migrates = false) (w : World σ) :
    (s.update c w).1.Current calm :=
  settle_current (faithful_of_no_cache h) w

theorem Current.edit (h : s.Current calm) (e : Edit) (w : World σ) :
    (s.edit w e).1.Current calm := by
  cases e with
  | join k =>
    have hr : (s.command.edit (.join k)).render = s.command.render := s.command.render_edit_join k
    refine ⟨⟨fun r hc => (h.cache r hc).trans hr.symm, fun hc => ?_⟩, ?_⟩
    · exact (s.command.migrates_edit _).trans (h.still hc)
    · exact hr ▸ h.tells
  | append t =>
    exact update_current (fun hc => (s.command.migrates_edit _).trans (h.still hc)) w

theorem Current.edits (h : s.Current calm) (es : List Edit) (w : World σ) :
    (s.edits es w).1.Current calm := by
  unfold Statement.edits
  induction es generalizing s w with
  | nil => exact h
  | cons e es ih => exact ih (h.edit e w) (s.edit w e).2

theorem Current.ensureExecuted (h : s.Current calm) (w : World σ) :
    Settles s calm (s.ensureExecuted w) := by
  have hx := h.execute w
  unfold Statement.ensureExecuted
  split
  · next hs => exact .of_faithful h.toFaithful rfl (Execution.settled_ok hs (h.tells.executed hs))
  · next hs =>
    obtain ⟨e, hl, hr⟩ := h.tells.failed hs
    rw [hl]
    exact .of_faithful h.toFaithful rfl (Execution.settled_error hs hl hr)
  · exact .of_faithful hx.1 (s.execute_command w) hx.2
  · exact .of_faithful hx.1 (s.execute_command w) hx.2

theorem Current.read {α : Type} (h : s.Current calm)
    {reading : Execution → Except QueryError α × Execution} (hr : Execution.Reads reading)
    (w : World σ) : Settles s calm (s.read reading w) := by
  have he := h.ensureExecuted w
  have hc := s.ensureExecuted_command w
  unfold Statement.read
  dsimp only
  generalize s.ensureExecuted w = a at he hc ⊢
  rcases a with ⟨e | _, t, v⟩
  · obtain ⟨hs, hl, hq⟩ := he.settled.error e rfl
    exact ⟨he.current, Execution.settled_error hs hl hq⟩
  · obtain ⟨hs, hl⟩ := he.settled.ok () rfl
    exact .of_faithful ⟨he.current.cache, he.current.still⟩ hc
      ((hr t.execution s.command.render hs hl).mono calm)

theorem Current.fetch (h : s.Current calm) (f : Fetch) (w : World σ) :
    Settles s calm (s.fetch f w) :=
  h.read (Execution.reads_fetch f) w

theorem Current.set (h : s.Current calm) (w : World σ) : Settles s calm (s.set w) := by
  refine h.read (fun x r hs hl => ?_) w
  exact (Execution.reads_all x r hs hl).map _

theorem Current.affectedRows (h : s.Current calm) (w : World σ) :
    Settles s calm (s.affectedRows w) :=
  h.read (fun _ _ hs hl => Execution.settled_ok hs hl) w

/-- How an answer leaves a statement: with `r` as what it has run, or failed with the error that is
answered. -/
def Answers (r : Rendered) (calm : Prop) (a : After σ Statement Answer) : Prop :=
  (a.next.execution.state = .executed ∧ a.next.execution.lastRun = some r ∧
      ∀ e, a.result ≠ .failed e) ∨
    ∃ e, a.result = .failed e ∧ a.next.execution.state = .failed ∧
      a.next.execution.lastError = some e ∧ (calm → e.run? = some r)

omit [Connection σ] in
theorem Settles.answers {α : Type} {a : After σ Statement (Except QueryError α)}
    (h : Settles s calm a) (f : α → Answer) (hf : ∀ b e, f b ≠ .failed e) :
    (answered f a).next.Current calm ∧ Answers s.command.render calm (answered f a) := by
  refine ⟨h.current, ?_⟩
  rcases a with ⟨e | b, t, v⟩
  · exact Or.inr ⟨e, rfl, h.settled.error e rfl⟩
  · obtain ⟨hs, hl⟩ := h.settled.ok b rfl
    exact Or.inl ⟨hs, hl, hf b⟩

theorem Current.access (h : s.Current calm) (w : World σ) (acc : Accessor) :
    (s.access w acc).next.Current calm ∧ Answers s.command.render calm (s.access w acc) := by
  cases acc with
  | row => exact (h.fetch _ w).answers _ (by simp)
  | rowFirst => exact (h.fetch _ w).answers _ (by simp)
  | rowLast => exact (h.fetch _ w).answers _ (by simp)
  | rowAt n => exact (h.fetch _ w).answers _ (by simp)
  | map => exact (h.fetch _ w).answers _ (by simp)
  | set => exact (h.set w).answers _ (by simp)
  | rowStrings => exact (h.fetch _ w).answers _ (by simp)
  | mapStrings => exact (h.fetch _ w).answers _ (by simp)
  | setStrings => exact (h.set w).answers _ (by simp)
  | affectedRows => exact (h.affectedRows w).answers _ (by simp)

theorem Current.rowCount (h : s.Current calm) (w : World σ) :
    (s.rowCount w).next.Current calm ∧
      ((s.rowCount w).next = s ∨
        Answers s.command.render calm (answered .count (s.rowCount w))) := by
  have ha := (h.affectedRows w).answers Answer.count (by simp)
  unfold Statement.rowCount
  split
  · exact ⟨h, Or.inl rfl⟩
  · split
    · exact ⟨h, Or.inl rfl⟩
    · exact ⟨ha.1, Or.inr ha.2⟩
  · exact ⟨ha.1, Or.inr ha.2⟩

theorem Current.first? (h : s.Current calm) {w : World σ}
    {a : After σ Statement (Except QueryError (Option Row))} (ha : s.first? w = some a) :
    a.next.Current calm ∧ Answers a.next.command.render calm (answered .row a) := by
  have fetched : ∀ (t : Statement) (v : World σ), t.Current calm →
      (t.fetch (.move .first) v).next.Current calm ∧
        Answers (t.fetch (.move .first) v).next.command.render calm
          (answered .row (t.fetch (.move .first) v)) := by
    intro t v ht
    have hc : (t.fetch (.move .first) v).next.command = t.command := t.read_command _ v
    rw [hc]
    exact (ht.fetch (.move .first) v).answers _ (by simp)
  unfold Statement.first? at ha
  split at ha
  · next q hq =>
    simp only [Option.some.injEq] at ha
    subst ha
    split
    · exact fetched _ _ h
    · exact fetched _ _ (update_current (fun _ => rfl) w)
  · cases ha

/-! ## Calls -/

theorem Current.tree? (h : s.Current calm) {groups : String → Option Conditions} {c : TreeCall}
    {w : World σ} {a : After σ Statement Answer} (ha : s.tree? groups c w = some a) :
    a.next.Current calm := by
  unfold Statement.tree? at ha
  split at ha
  · cases ha
  · simp only [Option.some.injEq] at ha
    subst ha
    exact h.edits _ _

theorem Current.autoMigrate? (h : s.Current calm) {b : Bool} {t : Statement}
    (ht : s.autoMigrate? b = some t) : t.Current (calm ∧ b ≠ true) := by
  unfold Statement.autoMigrate? at ht
  have off : calm ∧ b ≠ true → b = false := fun hc => by simpa using hc.2
  split at ht
  · next q hq =>
    cases ht
    have hr : (Command.insert { q with autoMigrate := b }).render = s.command.render := by
      rw [hq]; rfl
    exact ⟨⟨fun r hc => (h.cache r hc).trans hr.symm, off⟩, hr ▸ h.tells.mono And.left⟩
  · next q hq =>
    cases ht
    have hr : (Command.update { q with autoMigrate := b }).render = s.command.render := by
      rw [hq]; rfl
    exact ⟨⟨fun r hc => (h.cache r hc).trans hr.symm, off⟩, hr ▸ h.tells.mono And.left⟩
  · cases ht

/-- Every call keeps the result current; asking for a migration gives up the calm. -/
theorem Current.call? (h : s.Current calm) {groups : String → Option Conditions} {w : World σ}
    {c : StatementCall} {a : After σ Statement Answer} (ha : s.call? groups w c = some a) :
    a.next.Current (calm ∧ c ≠ .autoMigrate true) := by
  have calmer : ∀ {t : Statement}, t.Current calm → t.Current (calm ∧ c ≠ .autoMigrate true) :=
    fun ht => ht.mono And.left
  cases c with
  | change ch =>
    obtain ⟨⟨t, v⟩, ht, rfl⟩ := Option.map_eq_some_iff.mp ha
    obtain ⟨d, hd, hu⟩ := Option.map_eq_some_iff.mp ht
    have hm : calm → d.migrates = false := fun hc =>
      (Command.migrates_change? hd).trans (h.still hc)
    have hu' : (s.update d w).1 = t := congrArg Prod.fst hu
    exact calmer (show t.Current calm from hu' ▸ update_current hm w)
  | tree c => exact calmer (h.tree? ha)
  | access acc =>
    cases ha
    exact calmer (h.access w acc).1
  | rowCount =>
    cases ha
    exact calmer (h.rowCount w).1
  | first =>
    obtain ⟨b, hb, rfl⟩ := Option.map_eq_some_iff.mp ha
    exact calmer (h.first? hb).1
  | execute =>
    cases ha
    exact calmer (h.executed_current w)
  | close =>
    cases ha
    exact calmer (close_current h.toFaithful w)
  | render =>
    cases ha
    exact calmer h.keepRendered
  | autoExecute b =>
    cases ha
    exact calmer ⟨⟨h.cache, h.still⟩, ⟨h.tells.executed, h.tells.failed⟩⟩
  | isAutoExecute =>
    cases ha
    exact calmer h
  | isReady =>
    cases ha
    exact calmer h
  | autoMigrate b =>
    obtain ⟨t, ht, rfl⟩ := Option.map_eq_some_iff.mp ha
    exact (h.autoMigrate? ht).mono fun hc => ⟨hc.1, fun hb => hc.2 (hb ▸ rfl)⟩
  | requiredColumns =>
    unfold Statement.call? at ha
    dsimp only at ha
    split at ha
    · cases ha
      exact calmer h
    · cases ha
  | missingColumns =>
    unfold Statement.call? at ha
    dsimp only at ha
    split at ha
    · cases ha
      exact calmer h
    · cases ha

end Run

theorem current_of_new {c : Command} {x : Execution} (hc : c.migrates = false)
    (hx : x.state = .unexecuted) : Current ⟨c, none, x⟩ calm :=
  ⟨faithful_of_no_cache fun _ => hc,
    Execution.tells_of_state (by simp [hx]) (by simp [hx])⟩

def Unmigrated (calls : List StatementCall) : Prop := ∀ c ∈ calls, c ≠ .autoMigrate true

theorem reached_current {calls : List StatementCall} (h : Reached calls s) :
    s.Current (Unmigrated calls) := by
  induction h with
  | select t => exact current_of_new rfl rfl
  | update t => exact current_of_new rfl rfl
  | delete t => exact current_of_new rfl rfl
  | @insert _ _ t w s h =>
    obtain ⟨required, rfl⟩ := Table.eq_of_insert_ok h
    exact current_of_new rfl rfl
  | query => exact current_of_new rfl rfl
  | clone _ ih =>
    exact Current.withExecution ih.toFaithful
      (Execution.tells_of_state (by simp [Execution.clone]) (by simp [Execution.clone]))
  | call _ _ hc ih =>
    refine (ih.call? hc).mono fun hcalls => ⟨?_, ?_⟩
    · exact fun c hc => hcalls c (List.mem_cons_of_mem _ hc)
    · exact hcalls _ List.mem_cons_self

end Statement

end SqlClient
