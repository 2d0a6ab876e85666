import SqlClient.Proofs.Counting.Calls

/-! # The number that a count answers

The driver may give a count as a signed or an unsigned number or as text. Each of them is read as a
signed number first, so a count above the largest of those is answered as zero.
-/
namespace SqlClient

inductive Value.Shows (n : UInt64) : Value → Prop where
  | uint : Shows n (.uint n)
  | int {i : Int64} : i.toInt = n.toNat → Shows n (.int i)
  | text {before after : List Char} : (∀ c ∈ before, Text.isBlank c = true) →
      (∀ c ∈ after, Text.isBlank c = true) →
      Shows n (.text (String.ofList (before ++ (Nat.repr n.toNat).toList ++ after)))

theorem Value.Shows.int64? {n : UInt64} {v : Value} (h : v.Shows n) :
    v.int64? = Integer.toInt64? n.toNat := by
  cases h with
  | uint => rfl
  | int hi => rw [← hi, Integer.toInt64?_toInt, Value.int64?]
  | text hb ha =>
    have hdigits : ∀ c ∈ (Nat.repr n.toNat).toList, Text.isBlank c = false :=
      fun c hc => Text.isBlank_of_isDigit (Integer.isDigit_of_mem_repr hc)
    rw [Value.int64?, String.toList_ofList, Text.trim_of_no_blank hdigits hb ha,
      Integer.read?_repr, Option.bind_some]

theorem Outcome.firstRow_of_rows {c : Cursor} {values : List Value} {rows : List (List Value)}
    {found : Bool} (hmove : (c.move .first).1 = .ok found) (hrows : c.set.rows = values :: rows) :
    (Outcome.rows c).firstRow = .ok (some ⟨c.set.columns, values⟩) := by
  obtain ⟨⟨columns, all, position⟩, faults⟩ := c
  dsimp only at hrows
  subst hrows
  have hseek : RowSet.move ⟨columns, values :: rows, position⟩ .first =
      (true, ⟨columns, values :: rows, 1⟩) := by
    simp [RowSet.move, RowSet.seek, RowSet.size]
  rcases faults with _ | ⟨_ | e, faults⟩
  · simp [firstRow, Cursor.move, hseek, Cursor.current, RowSet.current]
  · simp [firstRow, Cursor.move, hseek, Cursor.current, RowSet.current]
  · cases hmove

namespace Execution

theorem countOf_shows {n : UInt64} {v : Value} (h : v.Shows n) (columns : List String)
    (values : List Value) : countOf (some ⟨columns, v :: values⟩) =
      if (n.toNat : Int) ≤ Int64.maxValue.toInt then n else 0 := by
  have hcell : ((some (⟨columns, v :: values⟩ : Row)).bind fun r => r.at? 0).bind Value.int64? =
      Integer.toInt64? n.toNat := h.int64?
  unfold countOf
  dsimp only
  rw [hcell]
  split
  · rename_i hn
    have hmin : Int64.minValue.toInt ≤ n.toNat := by
      rw [Int64.toInt_minValue]
      omega
    have hsome : Integer.toInt64? n.toNat = some (Int64.ofInt n.toNat) := if_pos ⟨hmin, hn⟩
    rw [hsome, Option.getD_some, Integer.toInt_of_toInt64? hsome, Integer.toUInt64?_toNat]
    rfl
  · rename_i hn
    have hnone : Integer.toInt64? n.toNat = none := if_neg fun h => hn h.2
    rw [hnone]
    rfl

end Execution

namespace Statement

variable {σ : Type} [Connection σ]

/-- If the driver answers rows and their first cell says how many rows there are, the count is this
number as far as it is a signed one, in whichever way it is said, and zero otherwise. -/
theorem count_of_shown {s : Statement} {r : Rendered} (hr : s.command.counting? = some r)
    {w : World σ} {calls : List Exchange} (hs : w.Said calls (s.rowCount w).world)
    {h : Handle} {c : Cursor} (hmem : .execute h (.ok (.rows c)) ∈ calls)
    {v : Value} {values : List Value} {rows : List (List Value)}
    (hrows : c.set.rows = (v :: values) :: rows) {found : Bool}
    (hmove : (c.move .first).1 = .ok found) {n : UInt64} (hv : v.Shows n) :
    (s.rowCount w).result =
      .ok (if (n.toNat : Int) ≤ Int64.maxValue.toInt then n else 0) := by
  obtain ⟨calls', hcounted⟩ := countsBy_of_counting hr σ w
  rw [← hcounted.said.unique hs] at hmem
  rw [hcounted.counted.answer_of_mem hmem (Outcome.firstRow_of_rows hmove hrows),
    Execution.countOf_shows hv]

/-- A text with white space around the digits. -/
theorem padded_text_counted :
    let rows : RowSet := { columns := ["c"], rows := [[.text " 12\n"]] }
    let w : World Scripted := { driver := { responses := [{ reply := .outcome (.rows ⟨rows, []⟩) }] } }
    ((Table.select ⟨⟨"t"⟩, {}⟩).rowCount w).result = .ok 12 := by
  intro rows w
  let h : Handle := ⟨1, "SELECT COUNT(*) FROM `t`"⟩
  let s := Table.select ⟨⟨"t"⟩, {}⟩
  have hs : w.Said [.prepare h (.ok ()), .execute h (.ok (.rows ⟨rows, []⟩)), .close h (.ok ())]
      (s.rowCount w).world := rfl
  have hshown : Value.Shows 12 (.text " 12\n") := by
    have htext : " 12\n" = String.ofList ([' '] ++ (Nat.repr 12).toList ++ ['\n']) := by decide
    rw [htext]
    exact .text (List.forall_mem_singleton.mpr (by decide))
      (List.forall_mem_singleton.mpr (by decide))
  exact count_of_shown (s := s) rfl hs (List.mem_cons_of_mem _ List.mem_cons_self) rfl rfl hshown

/-- The largest number, which is not a signed one, is counted as zero. -/
theorem large_count_is_zero :
    let n : UInt64 := 0xFFFFFFFFFFFFFFFF
    let rows : RowSet := { columns := ["COUNT(*)"], rows := [[.uint n]] }
    let w : World Scripted := { driver := { responses := [{ reply := .outcome (.rows ⟨rows, []⟩) }] } }
    Value.Shows n (.uint n) ∧ n ≠ 0 ∧ ((Settings.query {} "select 1").rowCount w).result = .ok 0 := by
  intro n rows w
  have hcount : ((Settings.query {} "select 1").rowCount w).result =
      .ok (Execution.countOf (some ⟨["COUNT(*)"], [.uint n]⟩)) := rfl
  refine ⟨.uint, by decide, ?_⟩
  rw [hcount, Execution.countOf_shows .uint, if_neg (by decide)]

end Statement

end SqlClient
