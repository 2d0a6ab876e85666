import SqlClient.Proofs.Execution.Retry

/-! # Reading by position

A cursor over `n` rows is a position between zero and `n + 1`, with the knowledge whether it has been
moved. Every reading of an execution is described by the place that it starts from, the place that it
leads to and the movements on the way; the first movement that fails ends it.
-/
namespace SqlClient

def RowSet.contents (s : RowSet) : List Row := s.rows.map (Row.mk s.columns)

/-- Where a cursor stands. It begins before the first row. -/
structure Place where
  position : Nat := 0
  untouched : Bool := true

namespace Place

def reach (n position : Nat) : Move → Nat
  | .next => min (position + 1) (n + 1)
  | .first => 1
  | .last => n
  | .absolute k => min k (n + 1)

/-- Asking for the current row only moves a cursor that has not been moved. -/
def fetch (n : Nat) (p : Place) : Fetch → Place
  | .current => if p.untouched then ⟨1, false⟩ else p
  | .move m => ⟨reach n p.position m, false⟩

def fetchMoves (p : Place) : Fetch → Nat
  | .current => if p.untouched then 1 else 0
  | .move _ => 1

/-- The row of a place, counted from one; there is none before the first and after the last. -/
def row? (rows : List Row) (p : Place) : Option Row :=
  match p.position with
  | 0 => none
  | k + 1 => rows[k]?

end Place

/-- The error of the first of the next `m` movements that fails. -/
def firstFault (faults : List (Option DriverError)) (m : Nat) : Option DriverError :=
  (faults.take m).findSome? id

theorem firstFault_zero (faults : List (Option DriverError)) : firstFault faults 0 = none := rfl

theorem firstFault_add (faults : List (Option DriverError)) (m k : Nat) :
    firstFault faults (m + k) = (firstFault faults m).or (firstFault (faults.drop m) k) := by
  simp [firstFault, List.take_add, List.findSome?_append]

namespace RowSet

variable (s : RowSet)

theorem length_contents : s.contents.length = s.size := by simp [contents, size]

theorem current_eq (untouched : Bool) :
    s.current = Place.row? s.contents ⟨s.position, untouched⟩ := by
  unfold current Place.row?
  dsimp only
  cases s.position with
  | zero => rfl
  | succ k => simp [contents]

theorem row?_eq_none {p : Place} (h : ¬ (1 ≤ p.position ∧ p.position ≤ s.size)) :
    p.row? s.contents = none := by
  unfold Place.row?
  cases hp : p.position with
  | zero => rfl
  | succ k =>
    apply List.getElem?_eq_none
    rw [s.length_contents]
    omega

theorem move_at (k : Nat) (m : Move) :
    ({ s with position := k } : RowSet).move m =
      (decide (1 ≤ Place.reach s.size k m ∧ Place.reach s.size k m ≤ s.size),
        { s with position := Place.reach s.size k m }) := by
  have hseek : ∀ q, ({ s with position := k } : RowSet).seek q =
      (decide (1 ≤ min q (s.size + 1) ∧ min q (s.size + 1) ≤ s.size),
        { s with position := min q (s.size + 1) }) := by
    intro q
    rw [Bool.decide_and]
    rfl
  have hfirst : min 1 (s.size + 1) = 1 := by omega
  have hlast : min s.size (s.size + 1) = s.size := by omega
  cases m with
  | next => exact hseek (k + 1)
  | first =>
    have hone := hseek 1
    rw [hfirst] at hone
    exact hone
  | last =>
    have hsize := hseek s.size
    rw [hlast] at hsize
    exact hsize
  | absolute q => exact hseek q

end RowSet

/-- A movement fails with the next fault, or takes the cursor to where it leads. -/
theorem Cursor.move_cases (c : Cursor) (m : Move) :
    (∃ e d, firstFault c.faults 1 = some e ∧ c.move m = (.error e, d)) ∨
      firstFault c.faults 1 = none ∧
        c.move m = (.ok (c.set.move m).1, ⟨(c.set.move m).2, c.faults.drop 1⟩) := by
  obtain ⟨set, faults⟩ := c
  rcases faults with _ | ⟨_ | e, rest⟩
  · exact Or.inr ⟨rfl, rfl⟩
  · exact Or.inr ⟨rfl, rfl⟩
  · exact Or.inl ⟨e, _, rfl, rfl⟩

namespace Execution

/-- The execution holds the rows of a run and stands at a place among them. -/
structure At (set : RowSet) (r : Rendered) (x : Execution) (p : Place)
    (faults : List (Option DriverError)) : Prop where
  executed : x.state = .executed
  cursor : x.cursor = some ⟨{ set with position := p.position }, faults⟩
  fresh : x.fresh = p.untouched
  affected : x.affected = none
  lastRun : x.lastRun = some r
  /-- Only a movement leaves the place before the first row. -/
  start : p.untouched = true → p.position = 0

structure FailedWith (x : Execution) (e : QueryError) : Prop where
  state : x.state = .failed
  lastError : x.lastError = some e

/-- How a reading of `m` movements ends: with its answer at the place that it leads to, or with the
error of the first movement that fails. -/
inductive Ends {α : Type} (set : RowSet) (r : Rendered) (faults : List (Option DriverError))
    (m : Nat) (answer : α) (p : Place) : Except QueryError α × Execution → Prop where
  | reached {y : Execution} : firstFault faults m = none → At set r y p (faults.drop m) →
      Ends set r faults m answer p (.ok answer, y)
  | broken {y : Execution} {e : DriverError} : firstFault faults m = some e →
      y.FailedWith (.ofDriver e r) → Ends set r faults m answer p (.error (.ofDriver e r), y)

variable {set : RowSet} {r : Rendered} {x : Execution} {p : Place}
  {faults : List (Option DriverError)}

theorem Ends.after {α : Type} {m k : Nat} {answer : α} {out : Except QueryError α × Execution}
    (hq : firstFault faults m = none) (h : Ends set r (faults.drop m) k answer p out) :
    Ends set r faults (m + k) answer p out := by
  have hsum : firstFault faults (m + k) = firstFault (faults.drop m) k := by
    rw [firstFault_add, hq, Option.none_or]
  cases h with
  | reached hk hy =>
    rw [List.drop_drop] at hy
    exact .reached (hsum.trans hk) hy
  | broken hk hy => exact .broken (hsum.trans hk) hy

/-! ## One row -/

theorem At.fetch_move (h : At set r x p faults) {f : Fetch} {m : Move}
    (hf : moveOf x.fresh f = some m) :
    Ends set r faults 1 (Place.row? set.contents ⟨Place.reach set.size p.position m, false⟩)
      ⟨Place.reach set.size p.position m, false⟩ (x.fetch f) := by
  have hmove := set.move_at p.position m
  generalize Place.reach set.size p.position m = q at hmove ⊢
  unfold fetch
  rw [h.cursor]
  dsimp only
  rw [hf]
  dsimp only
  rcases Cursor.move_cases ⟨{ set with position := p.position }, faults⟩ m with
    ⟨e, d, he, hc⟩ | ⟨hq, hc⟩
  · rw [hc, h.lastRun]
    exact .broken he ⟨rfl, rfl⟩
  · have hat : At set r
        { x with cursor := some ⟨{ set with position := q }, faults.drop 1⟩, fresh := false }
        ⟨q, false⟩ (faults.drop 1) :=
      ⟨h.executed, rfl, rfl, h.affected, h.lastRun, by simp⟩
    rw [hmove] at hc
    rw [hc]
    by_cases hrow : 1 ≤ q ∧ q ≤ set.size
    · rw [decide_eq_true hrow]
      have hcurrent := RowSet.current_eq { set with position := q } false
      dsimp only [Cursor.current]
      rw [hcurrent]
      exact .reached hq hat
    · rw [decide_eq_false hrow]
      have hnone := set.row?_eq_none (p := ⟨q, false⟩) hrow
      dsimp only
      rw [← hnone]
      exact .reached hq hat

theorem At.fetch (h : At set r x p faults) (f : Fetch) :
    Ends set r faults (p.fetchMoves f) ((p.fetch set.size f).row? set.contents)
      (p.fetch set.size f) (x.fetch f) := by
  cases f with
  | move m => exact h.fetch_move rfl
  | current =>
    by_cases hu : p.untouched = true
    · have hm : moveOf x.fresh .current = some .next := by simp [moveOf, h.fresh, hu]
      have hone : Place.reach set.size p.position .next = 1 := by
        simp [Place.reach, h.start hu]
      have hf := h.fetch_move hm
      rw [hone] at hf
      simpa [Place.fetch, Place.fetchMoves, hu] using hf
    · have hm : moveOf x.fresh .current = none := by simp [moveOf, h.fresh, hu]
      have hcurrent := RowSet.current_eq { set with position := p.position } p.untouched
      have hat : At set r { x with fresh := false } p faults :=
        ⟨h.executed, h.cursor, by simpa using hu, h.affected, h.lastRun, h.start⟩
      have hfetch : x.fetch .current = (.ok (p.row? set.contents), { x with fresh := false }) := by
        unfold Execution.fetch
        rw [h.cursor]
        dsimp only
        rw [hm]
        dsimp only [Cursor.current]
        rw [hcurrent]
        rfl
      rw [hfetch]
      simp only [Place.fetch, Place.fetchMoves, hu]
      exact .reached (firstFault_zero faults) hat

/-! ## All rows -/

theorem Ends.cons {m : Nat} {rows : List Row} {row : Row}
    {out : Except QueryError (List Row) × Execution} :
    Ends set r faults m rows p out →
      Ends set r faults m (row :: rows) p
        (match out with
        | (.error e, x) => (.error e, x)
        | (.ok rows, x) => (.ok (row :: rows), x)) := by
  intro h
  cases h with
  | reached hq hy => exact .reached hq hy
  | broken he hy => exact .broken he hy

/-- From a row of the set, or from before the first, the rows behind it are read. -/
theorem At.remaining {budget k : Nat} (h : At set r x ⟨k, false⟩ faults) (hk : k ≤ set.size)
    (hb : set.size < k + budget) :
    Ends set r faults (set.size + 1 - k) (set.contents.drop k) ⟨set.size + 1, false⟩
      (Execution.remaining budget x) := by
  induction budget generalizing x k faults with
  | zero => omega
  | succ budget ih =>
    have hf := h.fetch (.move .next)
    have hreach : Place.reach set.size k .next = k + 1 := by
      simp only [Place.reach]
      omega
    have hsplit : set.size + 1 - k = 1 + (set.size - k) := by omega
    simp only [Place.fetch, Place.fetchMoves, Place.row?, hreach] at hf
    unfold Execution.remaining
    rw [hsplit]
    generalize x.fetch (.move .next) = out at hf ⊢
    cases hf with
    | broken he hy =>
      refine .broken ?_ hy
      rw [firstFault_add, he, Option.some_or]
    | reached hq hy =>
      refine Ends.after hq ?_
      by_cases hlt : k < set.contents.length
      · rw [List.getElem?_eq_getElem hlt, List.drop_eq_getElem_cons hlt]
        rw [set.length_contents] at hlt
        have hrest := ih hy (by omega) (by omega)
        have hcount : set.size + 1 - (k + 1) = set.size - k := by omega
        rw [hcount] at hrest
        exact hrest.cons
      · have hnone : set.contents[k]? = none := List.getElem?_eq_none (by omega)
        have hdrop : set.contents.drop k = [] := List.drop_of_length_le (by omega)
        rw [set.length_contents] at hlt
        have hend : k = set.size := by omega
        rw [hnone, hdrop, hend, Nat.sub_self]
        rw [hend] at hy
        exact .reached (firstFault_zero _) hy

/-- Whatever has been read before, all rows are read, and the cursor ends behind them. -/
theorem At.all (h : At set r x p faults) :
    Ends set r faults (set.size + 1) set.contents ⟨set.size + 1, false⟩ x.all := by
  suffices hall : Ends set r faults (1 + set.size) set.contents ⟨set.size + 1, false⟩ x.all by
    rw [Nat.add_comm 1 set.size] at hall
    exact hall
  have hf := h.fetch (.move .first)
  simp only [Place.fetch, Place.fetchMoves, Place.row?, Place.reach] at hf
  unfold Execution.all
  generalize x.fetch (.move .first) = out at hf ⊢
  cases hf with
  | broken he hy =>
    refine .broken ?_ hy
    rw [firstFault_add, he, Option.some_or]
  | @reached y hq hy =>
    refine Ends.after hq ?_
    cases hc : set.contents with
    | nil =>
      have hsize : set.size = 0 := by rw [← set.length_contents, hc, List.length_nil]
      rw [hsize]
      exact .reached (firstFault_zero _) hy
    | cons row rows =>
      have hsize : set.size = rows.length + 1 := by
        rw [← set.length_contents, hc, List.length_cons]
      have hbound : y.rowBound = set.size := by
        unfold rowBound
        rw [hy.cursor]
        rfl
      have henough : set.size < 1 + y.rowBound := by omega
      have hrest := hy.remaining (by omega) henough
      rw [hc] at hrest
      exact hrest.cons

/-! ## A run that gives rows -/

section Run

variable {n m : Nat} {held kept : Option Handle} {calls : List Exchange} {o : Outcome}

theorem at_run {σ : Type} [Connection σ] {x : Execution} {w : World σ} {k : Handle}
    (hrun : (x.run r w).result = .ok ())
    (hrows : (x.run r w).world.history.head? = some (.execute k (.ok (.rows ⟨set, faults⟩))))
    (hstart : set.position = 0) : At set r (x.run r w).next {} faults := by
  obtain ⟨first, back, second, kept, calls, hran, hsaid, ⟨o, ho, -, hn⟩ | ⟨e, -, hr, -⟩⟩ :=
    run_cases x r w
  · obtain ⟨before, k', -, rfl⟩ := hran.last_of_ok ho
    have hlast : o = .rows ⟨set, faults⟩ := by
      rw [hsaid] at hrows
      simpa using congrArg (Option.map fun c => match c with
        | .execute _ (.ok o) => o
        | _ => o) hrows
    have hset : set = { set with position := 0 } := by rw [← hstart]
    rw [hn, hlast]
    exact ⟨rfl, congrArg (fun s => some (⟨s, faults⟩ : Cursor)) hset, rfl, rfl, rfl, fun _ => rfl⟩
  · rw [hrun] at hr
    cases hr

end Run

end Execution

end SqlClient
