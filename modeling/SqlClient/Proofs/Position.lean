import SqlClient.Proofs.Execution.Position
import SqlClient.Proofs.Question

/-! # Reading a result by position

The accessors of a statement whose run gave rows answer like a list of these rows with a position on
it. The run may give a cursor that fails at some movement; the accessor that makes this movement
fails with it, and gives no rows.
-/
namespace SqlClient

namespace Place

def access (n : Nat) (p : Place) : Accessor → Place
  | .row | .rowStrings => p.fetch n (.move .next)
  | .rowFirst => p.fetch n (.move .first)
  | .rowLast => p.fetch n (.move .last)
  | .rowAt k => p.fetch n (.move (.absolute k))
  | .map | .mapStrings => p.fetch n .current
  | .set | .setStrings => ⟨n + 1, false⟩
  | .affectedRows => p

def accessMoves (n : Nat) (p : Place) : Accessor → Nat
  | .row | .rowStrings | .rowFirst | .rowLast | .rowAt _ => 1
  | .map | .mapStrings => p.fetchMoves .current
  | .set | .setStrings => n + 1
  | .affectedRows => 0

/-- The answer of an accessor at the place that it has led to. Rows are no count. -/
def answer (rows : List Row) (p : Place) : Accessor → Answer
  | .row | .rowFirst | .rowLast | .rowAt _ => .row (p.row? rows)
  | .rowStrings => .strings ((p.row? rows).map Row.toStrings)
  | .map => .map ((p.row? rows).map Row.toMap)
  | .mapStrings => .stringMap ((p.row? rows).map Row.toStringMap)
  | .set => .maps (rows.map Row.toMap)
  | .setStrings => .stringMaps ((rows.map Row.toMap).map fun m => m.map Value.text?)
  | .affectedRows => .count 0

/-- The answers of accessors one after the other. The first movement that fails fails its accessor,
and all accessors after it. -/
def answers (rows : List Row) (r : Rendered) :
    Place → List (Option DriverError) → List Accessor → List Answer
  | _, _, [] => []
  | p, faults, a :: as =>
    match firstFault faults (p.accessMoves rows.length a) with
    | some e => List.replicate (as.length + 1) (.failed (.ofDriver e r))
    | none =>
      (p.access rows.length a).answer rows a ::
        answers rows r (p.access rows.length a)
          (faults.drop (p.accessMoves rows.length a)) as

theorem answer_ne_failed (rows : List Row) (p : Place) (a : Accessor) (e : QueryError) :
    p.answer rows a ≠ .failed e := by
  cases a <;> simp [answer]

theorem answers_replicate_row (rows : List Row) (r : Rendered) (k : Nat) {p : Place}
    {faults : List (Option DriverError)} (hq : firstFault faults k = none) :
    answers rows r p faults (List.replicate k .row) =
      (List.range k).map fun i => .row rows[p.position + i]? := by
  induction k generalizing p faults with
  | zero => rfl
  | succ k ih =>
    rw [Nat.add_comm k 1, firstFault_add, Option.or_eq_none_iff] at hq
    have hnext : ∀ i, rows[min (p.position + 1) (rows.length + 1) + i]? =
        rows[p.position + (i + 1)]? := by
      intro i
      by_cases hp : p.position ≤ rows.length
      · congr 1
        omega
      · rw [List.getElem?_eq_none (by omega), List.getElem?_eq_none (by omega)]
    have hfirst : (p.fetch rows.length (.move .next)).row? rows = rows[p.position]? := by
      by_cases hp : p.position ≤ rows.length
      · have hmin : min (p.position + 1) (rows.length + 1) = p.position + 1 := by omega
        simp [fetch, reach, row?, hmin]
      · have hmin : min (p.position + 1) (rows.length + 1) = rows.length + 1 := by omega
        simp [fetch, reach, row?, hmin]
        omega
    have hrest := ih (p := p.fetch rows.length (.move .next)) hq.2
    rw [List.replicate_succ, List.range_succ_eq_map, List.map_cons, List.map_map, answers]
    simp only [accessMoves, hq.1, access, answer, hfirst, Nat.add_zero]
    rw [hrest]
    congr 1
    apply List.map_congr_left
    intro i _
    exact congrArg Answer.row (hnext i)

end Place

namespace Statement

open Execution (At Ends FailedWith)

variable {σ : Type} [Connection σ] {s : Statement} {set : RowSet} {r : Rendered} {p : Place}
  {faults : List (Option DriverError)}

theorem ensureExecuted_of_executed (hs : s.execution.state = .executed) (w : World σ) :
    s.ensureExecuted w = ⟨.ok (), s, w⟩ := by
  unfold ensureExecuted
  rw [hs]

theorem read_of_executed {α : Type} (hs : s.execution.state = .executed)
    (reading : Execution → Except QueryError α × Execution) (w : World σ) :
    s.read reading w =
      ⟨(reading s.execution).1, { s with execution := (reading s.execution).2 }, w⟩ := by
  unfold read
  rw [ensureExecuted_of_executed hs]

inductive Accessed (set : RowSet) (r : Rendered) (faults : List (Option DriverError)) (m : Nat)
    (answer : Answer) (p : Place) : After σ Statement Answer → Prop where
  | reached {t : Statement} {w : World σ} : firstFault faults m = none →
      At set r t.execution p (faults.drop m) →
      Accessed set r faults m answer p ⟨answer, t, w⟩
  | broken {t : Statement} {w : World σ} {e : DriverError} : firstFault faults m = some e →
      FailedWith t.execution (.ofDriver e r) →
      Accessed set r faults m answer p ⟨.failed (.ofDriver e r), t, w⟩

theorem accessed_read {α : Type} {reading : Execution → Except QueryError α × Execution} {m : Nat}
    {answer : α} {q : Place} (hs : s.execution.state = .executed)
    (hr : Ends set r faults m answer q (reading s.execution)) (f : α → Answer) (w : World σ) :
    Accessed set r faults m (f answer) q (answered f (s.read reading w)) := by
  rw [read_of_executed hs]
  generalize reading s.execution = out at hr ⊢
  cases hr with
  | reached hq hy => exact .reached hq hy
  | broken he hy => exact .broken he hy

theorem accessed_fetch (h : At set r s.execution p faults) (f : Fetch)
    (answer : Option Row → Answer) (w : World σ) :
    Accessed set r faults (p.fetchMoves f)
      (answer ((p.fetch set.size f).row? set.contents)) (p.fetch set.size f)
      (answered answer (s.fetch f w)) :=
  accessed_read h.executed (h.fetch f) answer w

theorem accessed_set (h : At set r s.execution p faults)
    (answer : List (OrderedMap String Value) → Answer) (w : World σ) :
    Accessed set r faults (set.size + 1) (answer (set.contents.map Row.toMap))
      ⟨set.size + 1, false⟩ (answered answer (s.set w)) := by
  refine accessed_read h.executed ?_ answer w
  have hall := h.all
  dsimp only
  generalize s.execution.all = out at hall ⊢
  cases hall with
  | reached hq hy => exact .reached hq hy
  | broken he hy => exact .broken he hy

/-- Every accessor leads from place to place. -/
theorem accessed_access (h : At set r s.execution p faults) (w : World σ) (a : Accessor) :
    Accessed set r faults (p.accessMoves set.size a)
      ((p.access set.size a).answer set.contents a) (p.access set.size a) (s.access w a) := by
  cases a with
  | row => exact accessed_fetch h (.move .next) _ w
  | rowFirst => exact accessed_fetch h (.move .first) _ w
  | rowLast => exact accessed_fetch h (.move .last) _ w
  | rowAt k => exact accessed_fetch h (.move (.absolute k)) _ w
  | map => exact accessed_fetch h .current (fun row => .map (row.map Row.toMap)) w
  | rowStrings =>
    exact accessed_fetch h (.move .next) (fun row => .strings (row.map Row.toStrings)) w
  | mapStrings =>
    exact accessed_fetch h .current (fun row => .stringMap (row.map Row.toStringMap)) w
  | set => exact accessed_set h _ w
  | setStrings =>
    exact accessed_set h (fun ms => .stringMaps (ms.map fun m => m.map Value.text?)) w
  | affectedRows =>
    refine accessed_read h.executed ?_ Answer.count w
    rw [h.affected]
    exact .reached (firstFault_zero faults) h

/-! ## One accessor after the other -/

def reading (qs : List (World σ × Accessor)) : List (World σ × Question) :=
  qs.map fun q => (q.1, .access q.2)

omit [Connection σ] in
theorem suits_reading (c : Command) (qs : List (World σ × Accessor)) :
    ∀ q ∈ reading qs, q.2.Suits c := by
  intro q hq
  obtain ⟨q', -, rfl⟩ := List.mem_map.mp hq
  trivial

theorem length_asked (s : Statement) (qs : List (World σ × Question)) :
    (s.asked qs).length = qs.length := by
  induction qs generalizing s with
  | nil => rfl
  | cons q qs ih => simp [asked, ih]

/-- The answers are those of the list of rows, and an answer that is an error leaves the statement
failed with it. -/
theorem asked_reading (h : At set r s.execution p faults) (qs : List (World σ × Accessor)) :
    (s.asked (reading qs)).map After.result =
        Place.answers set.contents r p faults (qs.map Prod.snd) ∧
      ∀ b ∈ s.asked (reading qs), ∀ e, b.result = .failed e →
        FailedWith b.next.execution e ∧ e.run? = some r := by
  induction qs generalizing s p faults with
  | nil => exact ⟨rfl, by simp [reading, asked]⟩
  | cons q qs ih =>
    obtain ⟨w, a⟩ := q
    have ha := accessed_access h w a
    have hcons : s.asked (reading ((w, a) :: qs)) =
        s.access w a :: (s.access w a).next.asked (reading qs) := rfl
    rw [hcons, List.map_cons, List.map_cons, Place.answers, set.length_contents]
    generalize s.access w a = b at ha ⊢
    cases ha with
    | @reached t v hq hy =>
      obtain ⟨hanswers, hfailed⟩ := ih hy
      rw [hq]
      refine ⟨congrArg _ hanswers, ?_⟩
      intro b hb e he
      rcases List.mem_cons.mp hb with rfl | hb
      · exact absurd he (Place.answer_ne_failed _ _ _ e)
      · exact hfailed b hb e he
    | @broken t v e he hy =>
      have hlater := asked_of_failed hy.state hy.lastError (suits_reading t.command qs)
      rw [he]
      constructor
      · apply List.eq_replicate_iff.mpr
        constructor
        · simp [length_asked, reading]
        · intro answer hanswer
          rcases List.mem_cons.mp hanswer with rfl | hanswer
          · rfl
          · obtain ⟨b, hb, rfl⟩ := List.mem_map.mp hanswer
            exact (hlater b hb).1
      intro b hb e' he'
      have hb' : b.result = .failed (.ofDriver e r) ∧ b.next = t := by
        rcases List.mem_cons.mp hb with rfl | hb
        · exact ⟨rfl, rfl⟩
        · exact hlater b hb
      rw [hb'.1] at he'
      cases he'
      rw [hb'.2]
      exact ⟨hy, Execution.run?_ofDriver e r⟩

/-! ## From the run on -/

theorem at_execute {w : World σ} {k : Handle} (hrun : (s.execute w).result = .ok ())
    (hrows : (s.execute w).world.history.head? = some (.execute k (.ok (.rows ⟨set, faults⟩))))
    (hstart : set.position = 0) : At set s.rendered (s.execute w).next.execution {} faults := by
  unfold execute at hrun hrows ⊢
  dsimp only at hrun hrows ⊢
  cases hready : (s.keepRendered.preflight w).1 with
  | error e =>
    rw [hready] at hrun
    cases hrun
  | ok u =>
    rw [hready] at hrun hrows
    exact Execution.at_run hrun hrows hstart

theorem access_of_open (hopen : s.execution.state = .unexecuted ∨ s.execution.state = .closed)
    {w : World σ} (hrun : (s.execute w).result = .ok ())
    (hs : (s.execute w).next.execution.state = .executed) (a : Accessor) :
    s.access w a = (s.execute w).next.access (s.execute w).world a := by
  have hread : ∀ {α : Type} (reading : Execution → Except QueryError α × Execution),
      s.read reading w = (s.execute w).next.read reading (s.execute w).world := by
    intro α reading
    rw [read_of_executed hs]
    unfold read
    rw [ensureExecuted_of_open hopen]
    dsimp only
    rw [hrun]
  cases a with
  | row | rowFirst | rowLast | rowAt | map | set | rowStrings | mapStrings | setStrings
  | affectedRows => exact congrArg (answered _) (hread _)

/-- A statement whose run gave rows is read by a position on them. It begins before the first row,
and every accessor takes it where the list says and answers with the row that is there, or with all
rows, until a movement of the cursor fails; this failure, with what was run, is the answer then and
remains it. So `row` gives every row once, in order, and then none. The accessor that first asks
for the result runs the statement. -/
theorem accessors_follow_position {w : World σ} {k : Handle}
    (hrun : (s.execute w).result = .ok ())
    (hrows : (s.execute w).world.history.head? = some (.execute k (.ok (.rows ⟨set, faults⟩))))
    (hstart : set.position = 0) :
    (s.execution.state = .unexecuted ∨ s.execution.state = .closed →
      ∀ a, s.access w a = (s.execute w).next.access (s.execute w).world a) ∧
    (∀ qs : List (World σ × Accessor),
      ((s.execute w).next.asked (reading qs)).map After.result =
          Place.answers set.contents s.rendered {} faults (qs.map Prod.snd) ∧
        ∀ b ∈ (s.execute w).next.asked (reading qs), ∀ e, b.result = .failed e →
          b.next.execution.state = .failed ∧ b.next.execution.lastError = some e ∧
            e.run? = some s.rendered) ∧
    ∀ ws : List (World σ), firstFault faults ws.length = none →
      ((s.execute w).next.asked (reading (ws.map fun v => (v, .row)))).map After.result =
        (List.range ws.length).map fun i => .row set.contents[i]? := by
  have hat := at_execute hrun hrows hstart
  refine ⟨fun hopen a => access_of_open hopen hrun hat.executed a, fun qs => ?_, fun ws hq => ?_⟩
  · obtain ⟨hanswers, hfailed⟩ := asked_reading hat qs
    refine ⟨hanswers, fun b hb e he => ?_⟩
    obtain ⟨hf, hr⟩ := hfailed b hb e he
    exact ⟨hf.state, hf.lastError, hr⟩
  · have hrow : (ws.map fun v => (v, Accessor.row)).map Prod.snd =
        List.replicate ws.length .row := by
      rw [List.map_map]
      exact List.map_const' ..
    rw [(asked_reading hat _).1, hrow, Place.answers_replicate_row _ _ _ hq]
    simp

/-- Two rows are read back and forth until the cursor breaks at its sixth movement. -/
theorem broken_cursor_read_by_position :
    let set : RowSet := { columns := ["a"], rows := [[.int 1], [.int 2]] }
    let faults : List (Option DriverError) :=
      [none, none, none, none, none, some ⟨.other, "broken"⟩]
    let w : World Scripted :=
      { driver := { responses := [{ reply := .outcome (.rows ⟨set, faults⟩) }] } }
    let s := Table.select ⟨⟨"t"⟩, {}⟩
    let e : QueryError := .driver ⟨.other, "broken"⟩ (.text "SELECT * FROM `t`")
    (s.execute w).result = .ok () ∧
      (s.execute w).world.history.head? =
        some (.execute ⟨1, "SELECT * FROM `t`"⟩ (.ok (.rows ⟨set, faults⟩))) ∧
      set.position = 0 ∧ s.access w .row = (s.execute w).next.access (s.execute w).world .row ∧
      ((s.execute w).next.asked (reading
          [(w, .row), (w, .map), (w, .rowAt 0), (w, .mapStrings), (w, .set), (w, .rowLast),
            (w, .row)])).map After.result =
        [.row (some ⟨["a"], [.int 1]⟩), .map (some ⟨[("a", .int 1)]⟩), .row none, .stringMap none,
          .maps [⟨[("a", .int 1)]⟩, ⟨[("a", .int 2)]⟩], .failed e, .failed e] ∧
      ((s.execute w).next.asked (reading ([w, w, w].map fun v => (v, .row)))).map After.result =
        [.row (some ⟨["a"], [.int 1]⟩), .row (some ⟨["a"], [.int 2]⟩), .row none] := by
  intro set faults w s e
  have hrun : (s.execute w).result = .ok () := rfl
  have hrows : (s.execute w).world.history.head? =
      some (.execute ⟨1, "SELECT * FROM `t`"⟩ (.ok (.rows ⟨set, faults⟩))) := rfl
  obtain ⟨hdemand, hanswers, hrow⟩ := accessors_follow_position hrun hrows rfl
  exact ⟨hrun, hrows, rfl, hdemand (Or.inl rfl) .row, (hanswers _).1, hrow [w, w, w] rfl⟩

end Statement

end SqlClient
