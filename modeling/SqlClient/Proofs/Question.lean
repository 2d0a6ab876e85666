import SqlClient.Proofs.Freshness
import SqlClient.Scripted

/-! # Asking for a result again

A statement that is asked for its result runs at the first question, if it has not been run, and at
no later one. Once it has failed, every question is answered by that failure.
-/
namespace SqlClient

namespace Statement

inductive Question where
  | access (a : Accessor)
  | rowCount

/-- The rows of a select are counted by a statement of its own, so their number is no question about
its result. -/
def Question.Suits (c : Command) : Question → Prop
  | access _ => True
  | rowCount =>
    match c with
    | .select _ => False
    | .raw q => q.isSelect = false
    | _ => True

variable {σ : Type} [Connection σ] {s : Statement} {q : Question}

def ask (s : Statement) (w : World σ) : Question → After σ Statement Answer
  | .access a => s.access w a
  | .rowCount => answered .count (s.rowCount w)

/-- Questions one after the other, each in the world that it is asked in: others may have used the
connection since the question before. -/
def asked (s : Statement) : List (World σ × Question) → List (After σ Statement Answer)
  | [] => []
  | (w, q) :: rest => s.ask w q :: (s.ask w q).next.asked rest

/-! ## One question -/

theorem access_eq_read (s : Statement) (acc : Accessor) :
    ∃ (α : Type) (answer : α → Answer)
      (reading : Execution → Except QueryError α × Execution),
      ∀ w : World σ, s.access w acc = answered answer (s.read reading w) := by
  cases acc with
  | row => exact ⟨_, _, _, fun _ => rfl⟩
  | rowFirst => exact ⟨_, _, _, fun _ => rfl⟩
  | rowLast => exact ⟨_, _, _, fun _ => rfl⟩
  | rowAt n => exact ⟨_, _, _, fun _ => rfl⟩
  | map => exact ⟨_, _, _, fun _ => rfl⟩
  | set => exact ⟨_, _, _, fun _ => rfl⟩
  | rowStrings => exact ⟨_, _, _, fun _ => rfl⟩
  | mapStrings => exact ⟨_, _, _, fun _ => rfl⟩
  | setStrings => exact ⟨_, _, _, fun _ => rfl⟩
  | affectedRows => exact ⟨_, _, _, fun _ => rfl⟩

theorem rowCount_of_suits (hq : Question.rowCount.Suits s.command) (w : World σ) :
    s.rowCount w = s.affectedRows w := by
  unfold rowCount
  unfold Question.Suits at hq
  split
  · next q hc =>
    rw [hc] at hq
    exact hq.elim
  · next q hc =>
    rw [hc] at hq
    replace hq : q.isSelect = false := hq
    rw [hq]
    rfl
  · rfl

theorem ask_eq_read (hq : q.Suits s.command) :
    ∃ (α : Type) (answer : α → Answer)
      (reading : Execution → Except QueryError α × Execution),
      ∀ w : World σ, s.ask w q = answered answer (s.read reading w) := by
  cases q with
  | access acc => exact s.access_eq_read acc
  | rowCount =>
    refine ⟨_, Answer.count, fun x => (.ok (x.affected.getD 0), x), fun w => ?_⟩
    exact congrArg (answered .count) (rowCount_of_suits hq w)

theorem ask_answers {calm : Prop} (h : s.Current calm) (hq : q.Suits s.command) (w : World σ) :
    (s.ask w q).next.Current calm ∧ Answers s.command.render calm (s.ask w q) := by
  cases q with
  | access acc => exact h.access w acc
  | rowCount =>
    have ha := (h.affectedRows w).answers Answer.count (by simp)
    rw [← rowCount_of_suits hq w] at ha
    exact ha

theorem ask_command (s : Statement) (w : World σ) (q : Question) :
    (s.ask w q).next.command = s.command := by
  cases q with
  | access acc => exact s.access_command w acc
  | rowCount => exact s.rowCount_command w

theorem read_world {α : Type} (s : Statement)
    (reading : Execution → Except QueryError α × Execution) (w : World σ) :
    (s.read reading w).world = (s.ensureExecuted w).world := by
  unfold read
  dsimp only
  split <;> rfl

def HasRun (s : Statement) : Prop :=
  s.execution.state = .executed ∨ s.execution.state = .failed ∧ s.execution.lastError ≠ none

theorem ensureExecuted_of_hasRun (h : s.HasRun) (w : World σ) : (s.ensureExecuted w).world = w := by
  unfold ensureExecuted
  rcases h with hs | ⟨hs, hl⟩
  · rw [hs]
  · rw [hs]
    obtain ⟨e, he⟩ := Option.ne_none_iff_exists'.mp hl
    rw [he]

theorem ensureExecuted_of_open
    (h : s.execution.state = .unexecuted ∨ s.execution.state = .closed) (w : World σ) :
    s.ensureExecuted w = s.execute w := by
  unfold ensureExecuted
  rcases h with hs | hs <;> rw [hs]

theorem ensureExecuted_of_failed {e : QueryError} (hs : s.execution.state = .failed)
    (hl : s.execution.lastError = some e) (w : World σ) :
    s.ensureExecuted w = ⟨.error e, s, w⟩ := by
  unfold ensureExecuted
  rw [hs, hl]

theorem ask_world (hq : q.Suits s.command) (w : World σ) :
    (s.ask w q).world = (s.ensureExecuted w).world := by
  obtain ⟨α, answer, reading, ha⟩ := ask_eq_read (σ := σ) hq
  rw [ha w]
  exact s.read_world reading w

theorem ask_of_failed {e : QueryError} (hq : q.Suits s.command)
    (hs : s.execution.state = .failed) (hl : s.execution.lastError = some e) (w : World σ) :
    s.ask w q = ⟨.failed e, s, w⟩ := by
  obtain ⟨α, answer, reading, ha⟩ := ask_eq_read (σ := σ) hq
  rw [ha w]
  unfold read
  rw [ensureExecuted_of_failed hs hl]
  rfl

omit [Connection σ] in
theorem Answers.hasRun {r : Rendered} {calm : Prop} {a : After σ Statement Answer}
    (h : Answers r calm a) : a.next.HasRun := by
  rcases h with ⟨hs, -, -⟩ | ⟨e, -, hs, hl, -⟩
  · exact Or.inl hs
  · exact Or.inr ⟨hs, by simp [hl]⟩

/-! ## One question after the other -/

variable {qs : List (World σ × Question)}

theorem suits_next {w : World σ} {rest : List (World σ × Question)}
    (hq : ∀ p ∈ (w, q) :: rest, p.2.Suits s.command) :
    ∀ p ∈ rest, p.2.Suits (s.ask w q).next.command := by
  intro p hp
  rw [ask_command]
  exact hq p (List.mem_cons_of_mem _ hp)

theorem asked_worlds_of_hasRun {calm : Prop} (h : s.Current calm) (hr : s.HasRun)
    (hq : ∀ q ∈ qs, q.2.Suits s.command) : (s.asked qs).map After.world = qs.map Prod.fst := by
  induction qs generalizing s with
  | nil => rfl
  | cons p rest ih =>
    obtain ⟨w, q⟩ := p
    have hsuits : q.Suits s.command := hq (w, q) List.mem_cons_self
    obtain ⟨hc, ha⟩ := ask_answers h hsuits w
    have hworld : (s.ask w q).world = w := by
      rw [ask_world hsuits, ensureExecuted_of_hasRun hr]
    unfold asked
    rw [List.map_cons, List.map_cons, hworld, ih hc ha.hasRun (suits_next hq)]

theorem asked_of_failed {e : QueryError} (hs : s.execution.state = .failed)
    (hl : s.execution.lastError = some e) (hq : ∀ q ∈ qs, q.2.Suits s.command) :
    ∀ b ∈ s.asked qs, b.result = .failed e ∧ b.next = s := by
  induction qs with
  | nil =>
    intro b hb
    cases hb
  | cons p rest ih =>
    obtain ⟨w, q⟩ := p
    have hask := ask_of_failed (hq (w, q) List.mem_cons_self) hs hl w
    unfold asked
    rw [hask]
    intro b hb
    rcases List.mem_cons.mp hb with rfl | hb
    · exact ⟨rfl, rfl⟩
    · exact ih (fun q' hq' => hq q' (List.mem_cons_of_mem _ hq')) b hb

/-- As soon as a question finds a failure, that failure is its answer and that of all later ones. -/
theorem asked_after_failure {calm : Prop} (h : s.Current calm)
    (hq : ∀ q ∈ qs, q.2.Suits s.command) {before after : List (After σ Statement Answer)}
    {a : After σ Statement Answer} (hsplit : s.asked qs = before ++ a :: after)
    (hs : a.next.execution.state = .failed) :
    ∃ e, a.next.execution.lastError = some e ∧ a.result = .failed e ∧
      ∀ b ∈ after, b.result = .failed e ∧ b.next = a.next := by
  induction qs generalizing s before with
  | nil => simp [asked] at hsplit
  | cons p rest ih =>
    obtain ⟨w, q⟩ := p
    have hsuits : q.Suits s.command := hq (w, q) List.mem_cons_self
    obtain ⟨hc, ha⟩ := ask_answers h hsuits w
    unfold asked at hsplit
    cases before with
    | nil =>
      obtain ⟨rfl, rfl⟩ := List.cons.inj hsplit
      rcases ha with ⟨he, -, -⟩ | ⟨e, hr, -, hl, -⟩
      · rw [hs] at he
        cases he
      · exact ⟨e, hl, hr, asked_of_failed hs hl (suits_next hq)⟩
    | cons b before => exact ih hc (suits_next hq) (List.cons.inj hsplit).2

/-- However often a statement is asked for its result, it runs at most once, at the first question
and only if it has not run yet. The failure of that run, or of its cursor, is the answer of the
question that met it and of all later ones, which leave the statement as it is. -/
theorem asked_runs_at_most_once {calls : List StatementCall} (h : Reached calls s)
    (hq : ∀ q ∈ qs, q.2.Suits s.command) :
    (s.execution.state = .executed ∨ s.execution.state = .failed →
      (s.asked qs).map After.world = qs.map Prod.fst) ∧
    (s.execution.state = .unexecuted ∨ s.execution.state = .closed →
      ∀ w q rest, qs = (w, q) :: rest →
        (s.asked qs).map After.world = (s.execute w).world :: rest.map Prod.fst) ∧
    (s.execution.state = .failed →
      ∃ e, s.execution.lastError = some e ∧ ∀ b ∈ s.asked qs, b.result = .failed e ∧ b.next = s) ∧
    ∀ before a after, s.asked qs = before ++ a :: after → a.next.execution.state = .failed →
      ∃ e, a.next.execution.lastError = some e ∧ a.result = .failed e ∧
        ∀ b ∈ after, b.result = .failed e ∧ b.next = a.next := by
  have hc := reached_current h
  have hfailed : s.execution.state = .failed → ∃ e, s.execution.lastError = some e := by
    intro hs
    obtain ⟨e, he, -⟩ := hc.tells.failed hs
    exact ⟨e, he⟩
  refine ⟨fun hs => ?_, fun hs w q rest hqs => ?_, fun hs => ?_, fun before a after hsplit hs => ?_⟩
  · have hrun : s.HasRun := by
      rcases hs with he | hf
      · exact Or.inl he
      · obtain ⟨e, hl⟩ := hfailed hf
        exact Or.inr ⟨hf, by simp [hl]⟩
    exact asked_worlds_of_hasRun hc hrun hq
  · subst hqs
    have hsuits : q.Suits s.command := hq (w, q) List.mem_cons_self
    obtain ⟨hn, ha⟩ := ask_answers hc hsuits w
    have hworld : (s.ask w q).world = (s.execute w).world := by
      rw [ask_world hsuits, ensureExecuted_of_open hs]
    unfold asked
    rw [List.map_cons, hworld, asked_worlds_of_hasRun hn ha.hasRun (suits_next hq)]
  · obtain ⟨e, he⟩ := hfailed hs
    exact ⟨e, he, asked_of_failed hs he hq⟩
  · exact asked_after_failure hc hq hsplit hs

/-- A delete that the driver refuses is asked twice: the second answer says nothing to the driver,
which would have accepted another run. -/
theorem refused_delete_asked_twice :
    let w : World Scripted :=
      { driver := { responses := [{ reply := .fail ⟨.other, "locked"⟩ }] } }
    let s := Table.delete ⟨⟨"t"⟩, {}⟩
    let qs : List (World Scripted × Question) :=
      [(w, .access .affectedRows), ({ driver := {} }, .rowCount)]
    Reached [] s ∧ (∀ q ∈ qs, q.2.Suits s.command) ∧ s.execution.state = .unexecuted ∧
      (s.asked qs).map After.world = [(s.execute w).world, { driver := {} }] ∧
      ∃ e, ∀ b ∈ s.asked qs, b.result = .failed e := by
  intro w s qs
  have hs : Reached [] s := .delete _
  have hq : ∀ q ∈ qs, q.2.Suits s.command := by
    intro q hq
    rcases List.mem_cons.mp hq with rfl | hq
    · trivial
    · cases List.mem_singleton.mp hq
      trivial
  obtain ⟨-, hworlds, -, hfailure⟩ := asked_runs_at_most_once hs hq
  obtain ⟨e, -, hfirst, hlater⟩ := hfailure [] (s.ask w (.access .affectedRows)) _ rfl rfl
  refine ⟨hs, hq, rfl, hworlds (Or.inl rfl) _ _ _ rfl, e, fun b hb => ?_⟩
  rcases List.mem_cons.mp hb with rfl | hb
  · exact hfirst
  · exact (hlater b hb).1

end Statement

end SqlClient
