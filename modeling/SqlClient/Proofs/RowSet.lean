import SqlClient.Proofs.Execution.Position

/-! # Moving about a set of rows

Whatever movements a set of rows has made, it stands at one of its rows, before the first or behind
the last. A movement says whether it has led to a row. Positions are kept in machine words, and no
sum on the way to a position is too large for one.
-/
namespace SqlClient

namespace RowSet

variable {columns : List String} {rows : List (List Value)} {s : RowSet}

/-! ## Movements one after the other -/

def after (s : RowSet) (ms : List Move) : RowSet := ms.foldl (fun t m => (t.move m).2) s

/-- What movements keep: the rows, their labels, and a position that is at most one behind them. -/
structure Over (columns : List String) (rows : List (List Value)) (s : RowSet) : Prop where
  sameColumns : s.columns = columns
  sameRows : s.rows = rows
  inside : s.position ≤ rows.length + 1

theorem Over.size_eq (h : s.Over columns rows) : s.size = rows.length := by
  rw [size, h.sameRows]

theorem move_eq (s : RowSet) (m : Move) :
    s.move m =
      (decide (1 ≤ Place.reach s.size s.position m ∧ Place.reach s.size s.position m ≤ s.size),
        { s with position := Place.reach s.size s.position m }) :=
  s.move_at s.position m

theorem Over.move (h : s.Over columns rows) (m : Move) : (s.move m).2.Over columns rows := by
  cases m with
  | next | first | last | absolute =>
    refine ⟨h.sameColumns, h.sameRows, ?_⟩
    rw [← h.size_eq]
    exact s.position_seek_le _

theorem Over.after (h : s.Over columns rows) (ms : List Move) :
    (s.after ms).Over columns rows := by
  induction ms generalizing s with
  | nil => exact h
  | cons m ms ih => exact ih (h.move m)

/-! ## The current row -/

theorem Over.current_of_succ (h : s.Over columns rows) {i : Nat} (hp : s.position = i + 1) :
    s.current = rows[i]?.map (Row.mk columns) := by
  simp [current, hp, h.sameColumns, h.sameRows]

theorem Over.current_of_outside (h : s.Over columns rows)
    (hp : s.position = 0 ∨ s.position = rows.length + 1) : s.current = none := by
  rcases hp with hp | hp
  · simp [current, hp]
  · simp [h.current_of_succ hp]

theorem isSome_current (s : RowSet) :
    s.current.isSome = decide (1 ≤ s.position ∧ s.position ≤ s.size) := by
  unfold current
  cases s.position with
  | zero => simp
  | succ k =>
    have hiff : 1 ≤ k + 1 ∧ k + 1 ≤ s.size ↔ k < s.rows.length := by
      unfold size
      omega
    rw [decide_eq_decide.mpr hiff, Option.isSome_map, Bool.eq_iff_iff, isSome_getElem?,
      decide_eq_true_iff]

theorem move_found (s : RowSet) (m : Move) : (s.move m).1 = (s.move m).2.current.isSome := by
  rw [isSome_current, move_eq]
  rfl

/-! ## Row after row -/

theorem Over.after_next (h : s.Over columns rows) (k : Nat) :
    s.after (List.replicate k .next) =
      { s with position := min (s.position + k) (rows.length + 1) } := by
  induction k generalizing s with
  | zero =>
    have hstay : min (s.position + 0) (rows.length + 1) = s.position :=
      Nat.min_eq_left h.inside
    rw [hstay]
    rfl
  | succ k ih =>
    have hmin : min (min (s.position + 1) (rows.length + 1) + k) (rows.length + 1) =
        min (s.position + (k + 1)) (rows.length + 1) := by
      omega
    have hnext : (s.move .next).2 =
        { s with position := min (s.position + 1) (rows.length + 1) } := by
      rw [move_eq, ← h.size_eq]
      rfl
    have hrest := ih (h.move .next)
    rw [hnext, hmin] at hrest
    rw [← hrest, ← hnext]
    rfl

theorem Over.move_next_of_past (h : s.Over columns rows) (hp : s.position = rows.length + 1) :
    s.move .next = (false, s) := by
  have hstay : Place.reach s.size s.position .next = s.position := by
    simp only [Place.reach, h.size_eq]
    omega
  have hnone : ¬ (1 ≤ s.position ∧ s.position ≤ s.size) := by
    rw [h.size_eq]
    omega
  rw [move_eq, hstay, decide_eq_false hnone]

/-! ## Positions in machine words -/

def sum? (a b : UInt64) : Option UInt64 :=
  if a.toNat + b.toNat < UInt64.size then some (a + b) else none

/-- The nearest position to a word among as many rows as another word says. -/
def seekWord? (size target : UInt64) : Option UInt64 := (sum? size 1).map (min target)

/-- The position that a movement leads to, with all sums in words. -/
def moveWord? (size position : UInt64) : Move → Option UInt64
  | .next => (sum? position 1).bind (seekWord? size)
  | .first => seekWord? size 1
  | .last => seekWord? size size
  | .absolute k => seekWord? size (.ofNat k)

theorem sum?_one {n : Nat} (hn : n + 1 < UInt64.size) :
    sum? (.ofNat n) 1 = some (.ofNat (n + 1)) := by
  have htoNat : (UInt64.ofNat n).toNat = n := UInt64.toNat_ofNat_of_lt' (by omega)
  have hone : (1 : UInt64).toNat = 1 := rfl
  rw [sum?, htoNat, hone, if_pos hn, UInt64.ofNat_add]
  rfl

theorem min_ofNat {a b : Nat} (ha : a < UInt64.size) (hb : b < UInt64.size) :
    min (UInt64.ofNat a) (UInt64.ofNat b) = UInt64.ofNat (min a b) := by
  have hle : UInt64.ofNat a ≤ UInt64.ofNat b ↔ a ≤ b := by
    rw [UInt64.le_iff_toNat_le, UInt64.toNat_ofNat_of_lt' ha, UInt64.toNat_ofNat_of_lt' hb]
  by_cases hab : a ≤ b
  · rw [Nat.min_eq_left hab]
    exact if_pos (hle.mpr hab)
  · rw [Nat.min_eq_right (Nat.le_of_not_le hab)]
    exact if_neg fun h => hab (hle.mp h)

theorem seekWord?_ofNat {n k : Nat} (hn : n + 1 < UInt64.size) (hk : k < UInt64.size) :
    seekWord? (.ofNat n) (.ofNat k) = some (.ofNat (min k (n + 1))) := by
  rw [seekWord?, sum?_one hn, Option.map_some, min_ofNat hk hn]

theorem moveWord?_ofNat {n p : Nat} (hn : n + 2 < UInt64.size) (hp : p ≤ n + 1) {m : Move}
    (hm : ∀ k, m = .absolute k → k < UInt64.size) :
    moveWord? (.ofNat n) (.ofNat p) m = some (.ofNat (Place.reach n p m)) := by
  cases m with
  | next =>
    rw [moveWord?, sum?_one (by omega), Option.bind_some, seekWord?_ofNat (by omega) (by omega)]
    rfl
  | first =>
    have hone : min 1 (n + 1) = 1 := by omega
    have hseek := seekWord?_ofNat (n := n) (k := 1) (by omega) (by omega)
    rw [hone] at hseek
    exact hseek
  | last =>
    have hlast : min n (n + 1) = n := by omega
    have hseek := seekWord?_ofNat (n := n) (k := n) (by omega) (by omega)
    rw [hlast] at hseek
    exact hseek
  | absolute k => exact seekWord?_ofNat (by omega) (hm k rfl)

/-- The sums of all movements are words, and their positions are those that the set has. -/
theorem Over.moveWords?_eq (h : s.Over columns rows) (hn : rows.length + 2 < UInt64.size)
    {ms : List Move} (hms : ∀ k, .absolute k ∈ ms → k < UInt64.size) :
    ms.foldlM (moveWord? (.ofNat rows.length)) (.ofNat s.position) =
      some (.ofNat (s.after ms).position) := by
  induction ms generalizing s with
  | nil => rfl
  | cons m ms ih =>
    have hstep := moveWord?_ofNat hn h.inside (m := m) fun k hk =>
      hms k (hk ▸ List.mem_cons_self)
    have hreach : Place.reach rows.length s.position m = (s.move m).2.position := by
      rw [move_eq, h.size_eq]
    rw [hreach] at hstep
    rw [List.foldlM_cons, hstep]
    exact ih (h.move m) fun k hk => hms k (List.mem_cons_of_mem m hk)

/-- A set of rows that begins before the first of them and makes any movements keeps its rows and
stands at one of them, before the first or behind the last. Its position can be computed in machine
words: no sum overflows, as there are fewer rows than half of the words. Each movement says whether
there is a current row afterwards. The current row is the one that the position counts, under the
labels of the set, and there is none at the two positions outside. Going on to the next row passes
all rows behind the position and then stays behind the last, saying that there is no row. -/
theorem moves_stay_within_rows (columns : List String) (rows : List (List Value))
    (ms : List Move) :
    let s := after ⟨columns, rows, 0⟩ ms
    s.columns = columns ∧ s.rows = rows ∧ s.position ≤ rows.length + 1 ∧
      (rows.length < UInt64.size / 2 → (∀ k, .absolute k ∈ ms → k < UInt64.size) →
        ∃ w, ms.foldlM (moveWord? (.ofNat rows.length)) 0 = some w ∧ w.toNat = s.position) ∧
      (∀ m, (s.move m).1 = true ↔ (s.move m).2.current.isSome = true) ∧
      (∀ i (hi : i < rows.length), s.position = i + 1 → s.current = some ⟨columns, rows[i]⟩) ∧
      (s.position = 0 ∨ s.position = rows.length + 1 → s.current = none) ∧
      ∀ k, let t := s.after (List.replicate k .next)
        t.position = min (s.position + k) (rows.length + 1) ∧
          (rows.length + 1 ≤ s.position + k → t.current = none ∧ t.move .next = (false, t)) := by
  have hstart : (⟨columns, rows, 0⟩ : RowSet).Over columns rows := ⟨rfl, rfl, Nat.zero_le _⟩
  have hs := hstart.after ms
  refine ⟨hs.sameColumns, hs.sameRows, hs.inside, fun hn hms => ?_, fun m => ?_,
    fun i hi hp => ?_, hs.current_of_outside, fun k => ?_⟩
  · have hsize : UInt64.size = 0x10000000000000000 := rfl
    have hword := hs.inside
    exact ⟨_, hstart.moveWords?_eq (by omega) hms, UInt64.toNat_ofNat_of_lt' (by omega)⟩
  · rw [move_found]
  · rw [hs.current_of_succ hp, List.getElem?_eq_getElem hi, Option.map_some]
  · have ht := hs.after (List.replicate k .next)
    have hposition := congrArg RowSet.position (hs.after_next k)
    refine ⟨hposition, fun hk => ?_⟩
    have hpast := hposition.trans (Nat.min_eq_right hk)
    exact ⟨ht.current_of_outside (Or.inr hpast), ht.move_next_of_past hpast⟩

/-- Three rows, one of them without a value for its second label and one without any. -/
theorem rows_scrolled :
    let columns := ["id", "name"]
    let rows : List (List Value) := [[.int 1, .text "a"], [.int 2], []]
    let ms : List Move :=
      [.last, .next, .next, .first, .absolute 0, .absolute 0xFFFFFFFFFFFFFFFF, .absolute 2]
    let s := after ⟨columns, rows, 0⟩ ms
    let t := s.after (List.replicate 2 .next)
    rows.length < UInt64.size / 2 ∧ (∀ k, .absolute k ∈ ms → k < UInt64.size) ∧
      (∃ w, ms.foldlM (moveWord? 3) 0 = some w ∧ w.toNat = 2) ∧ s.position = 1 + 1 ∧
      s.current = some ⟨columns, [.int 2]⟩ ∧ rows.length + 1 ≤ s.position + 2 ∧
      t.current = none ∧ t.move .next = (false, t) := by
  intro columns rows ms s t
  have hsized : ∀ k, .absolute k ∈ ms → k < UInt64.size := by
    intro k hk
    have hsize : UInt64.size = 0x10000000000000000 := rfl
    simp only [ms, List.mem_cons, Move.absolute.injEq, reduceCtorEq, false_or, List.not_mem_nil,
      or_false] at hk
    omega
  obtain ⟨-, -, -, hword, -, hrow, -, hnext⟩ := moves_stay_within_rows columns rows ms
  obtain ⟨-, hpast⟩ := hnext 2
  exact ⟨by decide, hsized, hword (by decide) hsized, rfl, hrow 1 (by decide) rfl, by decide,
    hpast (by decide)⟩

/-- The last row of an empty set is before its first, and its first row is behind its last. -/
example : RowSet.move ⟨["id"], [], 1⟩ .last = (false, ⟨["id"], [], 0⟩) ∧
    RowSet.move ⟨["id"], [], 0⟩ .first = (false, ⟨["id"], [], 1⟩) :=
  ⟨rfl, rfl⟩

end RowSet

end SqlClient
